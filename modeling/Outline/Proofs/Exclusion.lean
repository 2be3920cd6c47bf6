import Outline.Proofs.Discovery
import Outline.Proofs.Patterns

/-!
# What exclusions do

Exclusions are rules behind those of the ignore file of a directory.  Nothing is
asked of the matcher but how it ranks matches: the last rule that matches a path
strongly decides about it, or the last one that matches it weakly if there is
none.

So a further exclusion never adds a document, and it takes away only what it
matches.  But an exclusion that matches a directory on the way to a document
matches the document weakly, and gives way to a negated rule of the ignore file
that matches the document strongly.
-/

namespace Outline

open Outline.Ignore
open Outline.Text

namespace Ignore

/-- A line with a negated pattern. -/
def IsNegation (line : String) : Prop :=
  line.toList.head? = some '!'

instance (line : String) : Decidable (IsNegation line) :=
  inferInstanceAs (Decidable (_ = _))

namespace Matcher

variable {matcher : Matcher}

/-! ## The rule that decides -/

/-- The rule that decides about a path. -/
def deciding? (matcher : Matcher) (rules : List matcher.Rule) (path : String) :
    Option matcher.Rule :=
  (matcher.lastMatch? .strong rules path).or (matcher.lastMatch? .weak rules path)

theorem lastMatch?_append (strength : Strength) (first second : List matcher.Rule)
    (path : String) :
    matcher.lastMatch? strength (first ++ second) path =
      (matcher.lastMatch? strength second path).or (matcher.lastMatch? strength first path) := by
  rw [lastMatch?, List.filter_append, List.getLast?_append]
  rfl

theorem mem_of_lastMatch? {strength : Strength} {rules : List matcher.Rule} {path : String}
    {rule : matcher.Rule} (last : matcher.lastMatch? strength rules path = some rule) :
    rule ∈ rules :=
  List.mem_of_mem_filter (List.mem_of_getLast? last)

theorem deciding?_append (first second : List matcher.Rule) (path : String) :
    matcher.deciding? (first ++ second) path =
      ((matcher.lastMatch? .strong second path).or (matcher.lastMatch? .strong first path)).or
        ((matcher.lastMatch? .weak second path).or (matcher.lastMatch? .weak first path)) := by
  rw [deciding?, lastMatch?_append, lastMatch?_append]

/-- Either one of the second rules decides, as it does on its own, or the first ones decide. -/
theorem deciding?_append_cases (first second : List matcher.Rule) (path : String) :
    (∃ rule ∈ second, matcher.deciding? second path = some rule ∧
      matcher.deciding? (first ++ second) path = some rule) ∨
      matcher.deciding? (first ++ second) path = matcher.deciding? first path := by
  rw [deciding?_append, deciding?, deciding?]
  cases strong : matcher.lastMatch? .strong second path with
  | some later => exact .inl ⟨later, mem_of_lastMatch? strong, rfl, rfl⟩
  | none =>
      cases matcher.lastMatch? .strong first path with
      | some earlier => exact .inr rfl
      | none =>
          cases weak : matcher.lastMatch? .weak second path with
          | some later => exact .inl ⟨later, mem_of_lastMatch? weak, rfl, rfl⟩
          | none => exact .inr rfl

/-! ## Verdicts -/

/-- The part of a path that rules are matched with. -/
def subject (path : String) : String :=
  String.ofList (trim (· = '/') path.toList)

/-- No rule takes paths back. -/
def AllPlain (matcher : Matcher) (rules : List matcher.Rule) : Prop :=
  ∀ rule ∈ rules, matcher.negated rule = false

section

variable {rules further : List matcher.Rule} {path : String} (ranks : matcher.Ranks)

include ranks

theorem ignores_iff :
    matcher.ignores rules path = true ↔
      trim (· = '/') path.toList ≠ [] ∧
        ∃ rule, matcher.deciding? rules (subject path) = some rule ∧
          matcher.negated rule = false := by
  rw [ignores, ranks.verdict_eq, ← deciding?, ← subject]
  cases trim (· = '/') path.toList with
  | nil => simp
  | cons first rest => simp [Option.any_eq_true]

/-- Rules that take nothing back keep what is ignored ignored. -/
theorem ignores_append (plain : matcher.AllPlain further)
    (ignored : matcher.ignores rules path = true) :
    matcher.ignores (rules ++ further) path = true := by
  rcases (ignores_iff ranks).mp ignored with ⟨nonempty, rule, decides, kept⟩
  refine (ignores_iff ranks).mpr ⟨nonempty, ?_⟩
  rcases deciding?_append_cases rules further (subject path) with ⟨later, added, -, both⟩ | same
  · exact ⟨later, both, plain later added⟩
  · exact ⟨rule, same.trans decides, kept⟩

/-- What further rules add is ignored by them alone. -/
theorem ignores_of_ignores_append (ignored : matcher.ignores (rules ++ further) path = true)
    (spared : matcher.ignores rules path = false) :
    matcher.ignores further path = true := by
  rcases (ignores_iff ranks).mp ignored with ⟨nonempty, rule, decides, kept⟩
  rcases deciding?_append_cases rules further (subject path) with ⟨later, -, alone, both⟩ | same
  · obtain rfl := Option.some.inj (both.symm.trans decides)
    exact (ignores_iff ranks).mpr ⟨nonempty, later, alone, kept⟩
  · rw [(ignores_iff ranks).mpr ⟨nonempty, rule, same.symm.trans decides, kept⟩] at spared
    cases spared

/--
What plain rules ignore on their own is taken back by the rules before them if and
only if they match it weakly, and the last strong match before them is negated.
-/
theorem ignores_append_eq_false_iff (plain : matcher.AllPlain further)
    (ignored : matcher.ignores further path = true) :
    matcher.ignores (rules ++ further) path = false ↔
      matcher.lastMatch? .strong further (subject path) = none ∧
        ∃ rule, matcher.lastMatch? .strong rules (subject path) = some rule ∧
          matcher.negated rule = true := by
  rcases (ignores_iff ranks).mp ignored with ⟨nonempty, rule, decides, kept⟩
  rw [← Bool.not_eq_true, ignores_iff ranks, deciding?_append, and_iff_right nonempty]
  rw [deciding?] at decides
  cases strong : matcher.lastMatch? .strong further (subject path) with
  | some later =>
      have plainly := plain later (mem_of_lastMatch? strong)
      simp [plainly]
  | none =>
      rw [strong, Option.none_or] at decides
      cases before : matcher.lastMatch? .strong rules (subject path) with
      | some earlier => simp
      | none => simp [decides, kept]

end

/-! ## Rules of lines -/

theorem mem_of_rulesOf {lines : List String} {rules : List matcher.Rule}
    (ruled : matcher.rulesOf lines = .ok rules) {rule : matcher.Rule} (member : rule ∈ rules) :
    ∃ line ∈ lines, matcher.read line = .ok (some rule) := by
  rw [rulesOf] at ruled
  cases read : lines.mapM matcher.read with
  | error fault => simp [read, Except.map] at ruled
  | ok values =>
      obtain rfl : values.filterMap id = rules := by
        simpa [read, Except.map] using ruled
      have held : some rule ∈ values := by
        simpa using member
      exact exists_of_forall₂ (mapM_eq_ok_iff.mp read) held

theorem allPlain_of_rulesOf (ranks : matcher.Ranks) {lines : List String}
    {rules : List matcher.Rule} (plain : ∀ line ∈ lines, ¬ IsNegation line)
    (ruled : matcher.rulesOf lines = .ok rules) :
    matcher.AllPlain rules := by
  intro rule member
  rcases mem_of_rulesOf ruled member with ⟨line, written, read⟩
  exact Bool.eq_false_iff.mpr fun negated => plain line written (ranks.negated_read read negated)

theorem rulesOf_append_eq_ok_iff {first second : List String} {rules : List matcher.Rule} :
    matcher.rulesOf (first ++ second) = .ok rules ↔
      ∃ front back, matcher.rulesOf first = .ok front ∧ matcher.rulesOf second = .ok back ∧
        rules = front ++ back :=
  map_mapM_append_eq_ok_iff fun _ _ => List.filterMap_append

end Matcher

end Ignore

/-! ## Fewer documents -/

/-- Exclusions ignore what some names lead to, without any other rules. -/
def Excludes (matcher : Matcher) (exclusions names : List String) : Prop :=
  ∃ rules, matcher.rulesOf exclusions = .ok rules ∧
    matcher.ignores rules (Path.joinParts names) = true

section

variable {matcher : Matcher} {files : FileSystem}

theorem documentsOf_sublist {rules more : List matcher.Rule}
    (grows : ∀ path, matcher.ignores rules path = true → matcher.ignores more path = true)
    (entries : List (String × FileTree)) :
    (documentsOf matcher more entries).Sublist (documentsOf matcher rules entries) := by
  refine List.sublist_of_subperm_of_pairwise ?_ (inOrder_pairwise_le _) (inOrder_pairwise_le _)
  rw [documentsOf, documentsOf, (inOrder_perm _).subperm_right, (inOrder_perm _).subperm_left]
  refine (List.monotone_filter_right _ fun names kept => ?_).subperm
  rw [Bool.and_eq_true, Bool.not_eq_true'] at kept ⊢
  exact ⟨kept.1, Bool.eq_false_iff.mpr fun ignored =>
    Bool.eq_false_iff.mp kept.2 (grows _ ignored)⟩

theorem documentsAt_further (ranks : matcher.Ranks) {path : Path} {listing : List Path}
    {exclusions further : List String} (usable : ∀ line ∈ further, matcher.IsUsable line)
    (plain : ∀ line ∈ further, ¬ IsNegation line)
    (listed : documentsAt matcher files exclusions path = .ok listing) :
    ∃ fewer, documentsAt matcher files (exclusions ++ further) path = .ok fewer ∧
      fewer.Sublist listing ∧
        ∀ document ∈ listing, document ∉ fewer →
          ∃ names, document = path.append names ∧ Excludes matcher further names := by
  cases documentsAt_eq_iff.mp listed with
  | file file =>
      exact ⟨[path], documentsAt_eq_iff.mpr (.file file), .refl _,
        fun _ member absent => absurd member absent⟩
  | @directory entries lines rules directory read ruled near =>
      rcases Matcher.exists_rulesOf usable with ⟨more, ruledFurther⟩
      have both : matcher.rulesOf (lines ++ (exclusions ++ further)) = .ok (rules ++ more) := by
        rw [← List.append_assoc]
        exact Matcher.rulesOf_append_eq_ok_iff.mpr ⟨rules, more, ruled, ruledFurther, rfl⟩
      have grows (other : String) (ignored : matcher.ignores rules other = true) :
          matcher.ignores (rules ++ more) other = true :=
        Matcher.ignores_append ranks (Matcher.allPlain_of_rulesOf ranks plain ruledFurther) ignored
      refine ⟨_, documentsAt_eq_iff.mpr (.directory directory read both near),
        (documentsOf_sublist grows entries).map _, ?_⟩
      intro document member absent
      rcases List.mem_map.mp member with ⟨names, found, rfl⟩
      rcases mem_documentsOf.mp found with ⟨document, spared⟩
      refine ⟨names, rfl, more, ruledFurther, Matcher.ignores_of_ignores_append ranks ?_ spared⟩
      by_contra kept
      exact absent (List.mem_map_of_mem
        (mem_documentsOf.mpr ⟨document, Bool.eq_false_iff.mpr kept⟩))

/--
Further exclusions never add a document: what is found with them is found without
them, in the same order.  They take away only what they match on their own.
-/
theorem findDocuments_exclude_sublist (ranks : matcher.Ranks) {paths documents : List Path}
    {exclusions : List String} (further : List String)
    (usable : ∀ line ∈ further, matcher.IsUsable line)
    (plain : ∀ line ∈ further, ¬ IsNegation line)
    (found : findDocuments matcher files paths exclusions = .ok documents) :
    ∃ fewer, findDocuments matcher files paths (exclusions ++ further) = .ok fewer ∧
      fewer.Sublist documents ∧
        ∀ document ∈ documents, document ∉ fewer →
          ∃ path ∈ paths, ∃ names, document = path.append names ∧
            Excludes matcher further names := by
  induction paths generalizing documents with
  | nil =>
      obtain rfl := Except.ok.inj found
      exact ⟨[], rfl, .refl _, fun _ member => nomatch member⟩
  | cons path paths induction =>
      rw [← List.singleton_append] at found ⊢
      rcases findDocuments_append_eq_ok_iff.mp found with ⟨listing, rest, here, there, rfl⟩
      rw [findDocuments_singleton] at here
      rcases documentsAt_further ranks usable plain here with
        ⟨front, frontFound, frontFewer, frontOnly⟩
      rcases induction there with ⟨back, backFound, backFewer, backOnly⟩
      refine ⟨front ++ back, findDocuments_append_eq_ok_iff.mpr ⟨front, back, ?_, backFound, rfl⟩,
        frontFewer.append backFewer, ?_⟩
      · rw [findDocuments_singleton, frontFound]
      · intro document member absent
        rw [List.mem_append, not_or] at absent
        rcases List.mem_append.mp member with inside | outside
        · exact ⟨path, by simp, frontOnly document inside absent.1⟩
        · rcases backOnly document outside absent.2 with ⟨other, known, facts⟩
          exact ⟨other, by simp [known], facts⟩

end

/-- A directory whose ignore file takes back what an earlier rule of it ignores. -/
def vendored : FileSystem where
  root := .directory
    [(".gitignore", .file "b/\n!*.mcbc".toUTF8.toList), ("a.mcbc", .file []),
      ("b", .directory [("c.mcbc", .file [])]),
      ("vendor", .directory [("d.mcbc", .file []), ("e.mcbc", .file [])])]

/-- What is found in the directory and, once more, in another one inside it. -/
def vendoredDocuments : List Path :=
  ["b/c.mcbc", "vendor/d.mcbc", "vendor/e.mcbc", "/vendor/d.mcbc", "/vendor/e.mcbc"].map
    Path.ofString

/-- A rule that begins at the top takes a document away from one of two directories. -/
theorem findDocuments_exclude_sublist_vendored :
    findDocuments versionControl vendored ([".", "/vendor"].map Path.ofString) ["a.*"] =
        .ok vendoredDocuments ∧
      ∃ fewer, findDocuments versionControl vendored ([".", "/vendor"].map Path.ofString)
          (["a.*"] ++ ["b/", "/d.*"]) = .ok fewer ∧
        fewer.Sublist vendoredDocuments := by
  have found : findDocuments versionControl vendored ([".", "/vendor"].map Path.ofString)
      ["a.*"] = .ok vendoredDocuments := by
    decide +kernel
  rcases findDocuments_exclude_sublist ranks_versionControl ["b/", "/d.*"] (by decide +kernel)
    (by decide) found with ⟨fewer, fewerFound, sublist, -⟩
  exact ⟨found, fewer, fewerFound, sublist⟩

/-! ## Documents that are taken back -/

theorem Path.append_injective (path : Path) : Function.Injective path.append := by
  intro first second same
  exact List.append_cancel_left (congrArg Path.parts same)

/--
Exclusions give way to the lines of an ignore file: they match some names weakly
only, and the last line that matches the names strongly is negated.
-/
def GiveWay (matcher : Matcher) (exclusions lines names : List String) : Prop :=
  ∃ own written rule, matcher.rulesOf exclusions = .ok own ∧ matcher.rulesOf lines = .ok written ∧
    matcher.lastMatch? .strong own (Matcher.subject (Path.joinParts names)) = none ∧
    matcher.lastMatch? .strong written (Matcher.subject (Path.joinParts names)) = some rule ∧
      matcher.negated rule = true

/--
A document below a directory that exclusions match on their own is found there
if and only if the exclusions give way to the ignore file of the directory.
-/
theorem findDocuments_excluded_iff {matcher : Matcher} (ranks : matcher.Ranks)
    {files : FileSystem} {before after documents : List Path} {path : Path}
    {exclusions lines names : List String} {entries : List (String × FileTree)}
    (differ : files.root.NamesDiffer) (plain : ∀ line ∈ exclusions, ¬ IsNegation line)
    (found : findDocuments matcher files (before ++ path :: after) exclusions = .ok documents)
    (directory : files.at? path = .ok (.directory entries))
    (read : ignoreLines files path = .ok lines) (below : IsDocumentBelow entries names)
    (excluded : Excludes matcher exclusions names) :
    ∃ first listing last, findDocuments matcher files before exclusions = .ok first ∧
      findDocuments matcher files [path] exclusions = .ok listing ∧
      findDocuments matcher files after exclusions = .ok last ∧
      documents = first ++ listing ++ last ∧
        (path.append names ∈ listing ↔ GiveWay matcher exclusions lines names) := by
  rw [← List.singleton_append, ← List.append_assoc] at found
  rcases findDocuments_append_eq_ok_iff.mp found with ⟨upTo, last, front, lastFound, rfl⟩
  rcases findDocuments_append_eq_ok_iff.mp front with ⟨first, listing, firstFound, listed, rfl⟩
  refine ⟨first, listing, last, firstFound, listed, lastFound, rfl, ?_⟩
  rcases excluded with ⟨own, ruledOwn, ignored⟩
  rw [findDocuments_singleton] at listed
  cases documentsAt_eq_iff.mp listed with
  | file file => exact nomatch directory.symm.trans file
  | @directory inner readLines rules reached readAgain ruled near =>
      obtain ⟨rfl⟩ : entries = inner := by simpa using directory.symm.trans reached
      obtain rfl := Except.ok.inj (read.symm.trans readAgain)
      rcases Matcher.rulesOf_append_eq_ok_iff.mp ruled with
        ⟨written, same, ruledWritten, ruledAgain, rfl⟩
      obtain rfl := Except.ok.inj (ruledOwn.symm.trans ruledAgain)
      have inside := differ.at? directory
      have plainly := Matcher.allPlain_of_rulesOf ranks plain ruledOwn
      have known : path.append names ∈
            (documentsOf matcher (written ++ own) entries).map path.append ↔
          names ∈ documentsOf matcher (written ++ own) entries :=
        List.mem_map_of_injective (Path.append_injective path)
      rw [known, mem_documentsOf_iff inside, and_iff_right below,
        Matcher.ignores_append_eq_false_iff ranks plainly ignored]
      constructor
      · rintro ⟨weak, rule, strong, negated⟩
        exact ⟨own, written, rule, ruledOwn, ruledWritten, weak, strong, negated⟩
      · rintro ⟨other, more, rule, ruledOther, ruledMore, weak, strong, negated⟩
        obtain rfl := Except.ok.inj (ruledOwn.symm.trans ruledOther)
        obtain rfl := Except.ok.inj (ruledWritten.symm.trans ruledMore)
        exact ⟨weak, rule, strong, negated⟩

/-- A directory whose ignore file takes all documents back, and one document below. -/
def takenBack : FileSystem where
  root := .directory
    [(".gitignore", .file "!*.mcbc".toUTF8.toList),
      ("vendor", .directory [("d.mcbc", .file "class: D".toUTF8.toList)])]

theorem takenBack_namesDiffer : takenBack.root.NamesDiffer :=
  ⟨by decide, trivial, ⟨by decide, trivial, trivial⟩, trivial⟩

theorem isDocumentBelow_takenBack :
    IsDocumentBelow takenBack.root.entries ["vendor", "d.mcbc"] where
  file := ⟨_, rfl⟩
  name := ⟨["vendor"], "d", rfl⟩

/-- The rule `vendor/`. -/
def vendorRule : Rule where
  negated := false
  forDirectories := true
  pattern := .pieces (.leadingDirectories :: "vendor".toList.map fun letter => .one (.only letter))
    .slash

/-- The rule `!*.mcbc`. -/
def documentsRule : Rule where
  negated := true
  forDirectories := false
  pattern := .pieces
    (.leadingDirectories :: .many .notSlash ::
      ".mcbc".toList.map fun letter => .one (.only letter))
    .boundary

theorem excludes_takenBack : Excludes versionControl ["vendor/"] ["vendor", "d.mcbc"] :=
  ⟨[vendorRule], by decide +kernel, by decide +kernel⟩

theorem findDocuments_takenBack :
    findDocuments versionControl takenBack [{ parts := [] }] ["vendor/"] =
      .ok [{ parts := ["vendor", "d.mcbc"] }] := by
  decide +kernel

theorem findDocuments_excluded_iff_takenBack :
    Excludes versionControl ["vendor/"] ["vendor", "d.mcbc"] ∧
      ∃ listing, findDocuments versionControl takenBack [{ parts := [] }] ["vendor/"] =
          .ok listing ∧
        { parts := ["vendor", "d.mcbc"] } ∈ listing := by
  have found : findDocuments versionControl takenBack ([] ++ { parts := [] } :: []) ["vendor/"] =
      .ok [{ parts := ["vendor", "d.mcbc"] }] :=
    findDocuments_takenBack
  have read : ignoreLines takenBack { parts := [] } = .ok ["!*.mcbc"] := by
    decide +kernel
  rcases findDocuments_excluded_iff ranks_versionControl takenBack_namesDiffer (by decide) found rfl
    read isDocumentBelow_takenBack excludes_takenBack with ⟨-, listing, -, -, listed, -, -, taken⟩
  refine ⟨excludes_takenBack, listing, listed, taken.mpr ?_⟩
  exact ⟨[vendorRule], [documentsRule], documentsRule, by decide +kernel, by decide +kernel,
    by decide +kernel, by decide +kernel, rfl⟩

/-- A document may be found although the exclusions match it on their own. -/
theorem not_forall_excluded_unlisted :
    ¬ ∀ (files : FileSystem) (path : Path) (entries : List (String × FileTree))
        (exclusions names : List String) (documents : List Path),
      files.root.NamesDiffer → files.at? path = .ok (.directory entries) →
        IsDocumentBelow entries names → (∀ line ∈ exclusions, ¬ IsNegation line) →
          Excludes versionControl exclusions names →
            findDocuments versionControl files [path] exclusions = .ok documents →
              path.append names ∉ documents := by
  intro always
  exact always takenBack { parts := [] } takenBack.root.entries ["vendor/"] ["vendor", "d.mcbc"] _
    takenBack_namesDiffer rfl isDocumentBelow_takenBack (by decide) excludes_takenBack
    findDocuments_takenBack List.mem_cons_self

end Outline
