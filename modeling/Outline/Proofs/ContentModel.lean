import Mathlib.Computability.RegularExpressions
import Outline.Proofs.Soundness

/-!
# Content models

The grammar decides about one node at a time, by a look at the nodes placed
before it.  All the same, what it lets through below a node of some kind is a
regular language: the content model of the kind, written as a regular expression
over kinds.

The proof follows a content model through its derivatives.  `Grammar.remaining`
says what may still come after some nodes.  Its derivative by a kind that the
grammar admits is what may come after one node more; by any other kind it is
empty.
-/

namespace Outline

open RegularExpression

namespace Grammar

/-- Something that may be left out. -/
def optional (content : RegularExpression Kind) : RegularExpression Kind :=
  1 + content

/-- The members of a class, each perhaps with its description. -/
def members : RegularExpression Kind :=
  ((char Kind.field + char Kind.function) * optional (char Kind.description)).star

/-- The outputs of a function, and then perhaps its behavior. -/
def results : RegularExpression Kind :=
  (char Kind.output).star * optional (char Kind.behavior)

/-- Statements and conditionals, each conditional perhaps with its alternative. -/
def steps : RegularExpression Kind :=
  (char Kind.statement + char Kind.conditional * optional (char Kind.alternative)).star

/-- What may stand right below a node of a kind, in the order of the document. -/
def contents : Kind → RegularExpression Kind
  | .root => (char Kind.moduleHeader + char Kind.classBlock).star
  | .classBlock => optional (char Kind.description) * (optional (char Kind.inheritance) * members)
  | .function => optional (char Kind.description) * ((char Kind.input).star * results)
  | .behavior | .conditional | .alternative => steps
  | _ => 1

/--
The grammar admits some kinds below an empty container, one after the other,
each after all those before it.
-/
def AdmitsInTurn (container : Kind) (kinds : List Kind) : Prop :=
  ∀ before kind after, kinds = before ++ kind :: after →
    admits container before.reverse kind = true

/-! ## What may still come -/

/-- What may still come in a class after some nodes, of which the last one comes first. -/
def remainingInClass : List Kind → RegularExpression Kind
  | [] => contents .classBlock
  | last :: earlier =>
    if last = .field ∨ last = .function then
      optional (char Kind.description) * members
    else if (last :: earlier).all fun kind => kind = .description then
      optional (char Kind.inheritance) * members
    else
      members

/-- What may still come in a function after some nodes. -/
def remainingInFunction (earlier : List Kind) : RegularExpression Kind :=
  if earlier = [] then
    contents .function
  else if .behavior ∈ earlier then
    1
  else if .output ∈ earlier then
    results
  else
    (char Kind.input).star * results

/-- What may still come in a block after some nodes. -/
def remainingInBlock (earlier : List Kind) : RegularExpression Kind :=
  if earlier.head? = some .conditional then optional (char Kind.alternative) * steps else steps

/-- What may still come in a container after some nodes, of which the last one comes first. -/
def remaining (container : Kind) (earlier : List Kind) : RegularExpression Kind :=
  match container with
  | .classBlock => remainingInClass earlier
  | .function => remainingInFunction earlier
  | .behavior | .conditional | .alternative => remainingInBlock earlier
  | other => contents other

theorem remaining_nil (container : Kind) : remaining container [] = contents container := by
  cases container <;> rfl

theorem matchEpsilon_remaining (container : Kind) (earlier : List Kind) :
    (remaining container earlier).matchEpsilon = true := by
  cases container with
  | classBlock =>
      cases earlier with
      | nil => rfl
      | cons last earlier =>
          simp only [remaining, remainingInClass]
          split_ifs <;> rfl
  | function =>
      simp only [remaining, remainingInFunction]
      split_ifs <;> rfl
  | behavior | conditional | alternative =>
      simp only [remaining, remainingInBlock]
      split_ifs <;> rfl
  | _ => rfl

theorem cons_mem_iff (content : RegularExpression Kind) (kind : Kind) (rest : List Kind) :
    kind :: rest ∈ content.matches' ↔ rest ∈ (content.deriv kind).matches' := by
  rw [← rmatch_iff_matches', rmatch, rmatch_iff_matches']

/-! ## Derivatives of the parts -/

theorem matches'_deriv_char (kind next : Kind) :
    ((char kind).deriv next).matches' = if next = kind then 1 else 0 := by
  by_cases same : next = kind
  · rw [same, deriv_char_self, if_pos rfl, matches'_epsilon]
  · rw [deriv_char_of_ne (Ne.symm same), if_neg same, matches'_zero]

theorem matches'_deriv_optional (kind next : Kind) :
    ((optional (char kind)).deriv next).matches' = if next = kind then 1 else 0 := by
  have step : (optional (char kind)).deriv next = 0 + (char kind).deriv next := rfl
  rw [step, matches'_add, matches'_zero, zero_add, matches'_deriv_char]

/-- What may be empty may be passed by. -/
theorem matches'_deriv_mul {first : RegularExpression Kind}
    (nullable : first.matchEpsilon = true) (second : RegularExpression Kind) (next : Kind) :
    ((first * second).deriv next).matches' =
      (first.deriv next).matches' * second.matches' + (second.deriv next).matches' := by
  have step : (first * second).deriv next =
      if first.matchEpsilon then first.deriv next * second + second.deriv next
      else first.deriv next * second := rfl
  rw [step, if_pos nullable, matches'_add, matches'_mul]

theorem matches'_deriv_optional_mul (kind next : Kind) (rest : RegularExpression Kind) :
    ((optional (char kind) * rest).deriv next).matches' =
      (if next = kind then rest.matches' else 0) + (rest.deriv next).matches' := by
  rw [matches'_deriv_mul rfl, matches'_deriv_optional, ite_mul, one_mul, zero_mul]

theorem matches'_deriv_star_mul (kind next : Kind) (rest : RegularExpression Kind) :
    (((char kind).star * rest).deriv next).matches' =
      (if next = kind then ((char kind).star * rest).matches' else 0)
        + (rest.deriv next).matches' := by
  rw [matches'_deriv_mul rfl, deriv_star, matches'_mul, matches'_mul, matches'_deriv_char,
    mul_assoc, ite_mul, one_mul, zero_mul]

theorem matches'_deriv_members (next : Kind) :
    (members.deriv next).matches' =
      if next = .field ∨ next = .function then
        (optional (char Kind.description) * members).matches'
      else
        0 := by
  have step : members.deriv next =
      ((char Kind.field).deriv next + (char Kind.function).deriv next)
        * optional (char Kind.description) * members := rfl
  rw [step, matches'_mul, matches'_mul, matches'_add, matches'_deriv_char, matches'_deriv_char,
    matches'_mul]
  cases next <;> simp

theorem matches'_deriv_results (next : Kind) :
    (results.deriv next).matches' =
      (if next = .output then results.matches' else 0) + if next = .behavior then 1 else 0 := by
  rw [results, matches'_deriv_star_mul, matches'_deriv_optional]

theorem matches'_deriv_steps (next : Kind) :
    (steps.deriv next).matches' =
      if next = .statement then
        steps.matches'
      else if next = .conditional then
        (optional (char Kind.alternative) * steps).matches'
      else
        0 := by
  have step : steps.deriv next =
      ((char Kind.statement).deriv next
          + (char Kind.conditional).deriv next * optional (char Kind.alternative)) * steps := rfl
  rw [step, matches'_mul, matches'_add, matches'_mul, matches'_deriv_char, matches'_deriv_char,
    matches'_mul]
  cases next <;> simp

/-! ## One node more -/

theorem matches'_deriv_remainingInClass (earlier : List Kind) (next : Kind) :
    ((remainingInClass earlier).deriv next).matches' =
      if classAdmits earlier next then (remainingInClass (next :: earlier)).matches' else 0 := by
  cases earlier with
  | nil =>
      rw [remainingInClass, contents, matches'_deriv_optional_mul, matches'_deriv_optional_mul,
        matches'_deriv_members]
      cases next <;> simp [classAdmits, remainingInClass]
  | cons last earlier =>
      by_cases member : last = .field ∨ last = .function
      · rw [remainingInClass, if_pos member, matches'_deriv_optional_mul, matches'_deriv_members]
        rcases member with rfl | rfl <;> cases next <;> simp [classAdmits, remainingInClass]
      by_cases described : (last :: earlier).all fun kind => kind = .description
      · rw [remainingInClass, if_neg member, if_pos described, matches'_deriv_optional_mul,
          matches'_deriv_members]
        cases next <;> simp_all [classAdmits, remainingInClass]
      · rw [remainingInClass, if_neg member, if_neg described, matches'_deriv_members]
        cases next <;> simp_all [classAdmits, remainingInClass]

theorem matches'_deriv_remainingInFunction (earlier : List Kind) (next : Kind) :
    ((remainingInFunction earlier).deriv next).matches' =
      if functionAdmits earlier next then
        (remainingInFunction (next :: earlier)).matches'
      else
        0 := by
  by_cases first : earlier = []
  · rw [remainingInFunction, if_pos first, contents, matches'_deriv_optional_mul,
      matches'_deriv_star_mul, matches'_deriv_results]
    cases next <;> simp [first, functionAdmits, remainingInFunction]
  by_cases finished : .behavior ∈ earlier
  · rw [remainingInFunction, if_neg first, if_pos finished, RegularExpression.deriv_one,
      matches'_zero]
    cases next <;> simp [first, finished, functionAdmits]
  by_cases given : .output ∈ earlier
  · rw [remainingInFunction, if_neg first, if_neg finished, if_pos given, matches'_deriv_results]
    cases next <;> simp [first, finished, given, functionAdmits, remainingInFunction]
  · rw [remainingInFunction, if_neg first, if_neg finished, if_neg given, matches'_deriv_star_mul,
      matches'_deriv_results]
    cases next <;> simp [first, finished, given, functionAdmits, remainingInFunction]

theorem matches'_deriv_remainingInBlock (earlier : List Kind) (next : Kind) :
    ((remainingInBlock earlier).deriv next).matches' =
      if blockAdmits earlier next then (remainingInBlock (next :: earlier)).matches' else 0 := by
  by_cases inside : earlier.head? = some .conditional
  · rw [remainingInBlock, if_pos inside, matches'_deriv_optional_mul, matches'_deriv_steps]
    cases next <;> simp [inside, blockAdmits, remainingInBlock]
  · rw [remainingInBlock, if_neg inside, matches'_deriv_steps]
    cases next <;> simp [inside, blockAdmits, remainingInBlock]

theorem matches'_deriv_remaining (container : Kind) (earlier : List Kind) (next : Kind) :
    ((remaining container earlier).deriv next).matches' =
      if admits container earlier next then
        (remaining container (next :: earlier)).matches'
      else
        0 := by
  cases container with
  | root =>
      have step : (contents .root).deriv next =
          ((char Kind.moduleHeader).deriv next + (char Kind.classBlock).deriv next)
            * contents .root := rfl
      change ((contents .root).deriv next).matches' = _
      rw [step, matches'_mul, matches'_add, matches'_deriv_char, matches'_deriv_char]
      cases next <;> simp [admits, rootAdmits, remaining]
  | classBlock => exact matches'_deriv_remainingInClass earlier next
  | function => exact matches'_deriv_remainingInFunction earlier next
  | behavior | conditional | alternative => exact matches'_deriv_remainingInBlock earlier next
  | _ => rfl

/-! ## Whole sequences -/

/-- What may still come is what the grammar goes on to admit. -/
theorem mem_remaining_iff (container : Kind) (earlier kinds : List Kind) :
    kinds ∈ (remaining container earlier).matches' ↔
      ∀ before kind after, kinds = before ++ kind :: after →
        admits container (before.reverse ++ earlier) kind = true := by
  induction kinds generalizing earlier with
  | nil =>
      rw [← rmatch_iff_matches', rmatch, matchEpsilon_remaining]
      simp
  | cons first rest induction =>
      rw [cons_mem_iff, matches'_deriv_remaining]
      by_cases admitted : admits container earlier first = true
      · rw [if_pos admitted, induction]
        constructor
        · intro further before kind after split
          cases before with
          | nil =>
              obtain ⟨rfl, rfl⟩ := List.cons.inj split
              exact admitted
          | cons other before =>
              obtain ⟨rfl, rfl⟩ := List.cons.inj split
              simpa using further before kind after rfl
        · intro further before kind after split
          simpa using further (first :: before) kind after (congrArg (first :: ·) split)
      · rw [if_neg admitted]
        constructor
        · intro impossible
          exact absurd impossible (Language.notMem_zero rest)
        · intro further
          exact absurd (further [] first rest rfl) admitted

theorem admitsInTurn_iff (container : Kind) (kinds : List Kind) :
    AdmitsInTurn container kinds ↔ kinds ∈ (contents container).matches' := by
  rw [← remaining_nil, mem_remaining_iff]
  simp [AdmitsInTurn]

end Grammar

example : [.inheritance, .description] ∉ (Grammar.contents .classBlock).matches' := by
  decide

/-! ## The nodes of a tree -/

namespace Tree

mutual

/-- A tree and all trees that stand below its top. -/
def nodes : Tree → List Tree
  | ⟨entry, children⟩ => ⟨entry, children⟩ :: nodesAmong children

/-- Some trees and all trees that stand below their tops. -/
def nodesAmong : List Tree → List Tree
  | [] => []
  | child :: rest => nodes child ++ nodesAmong rest

end

theorem mem_nodes_of_mem_children {tree child : Tree} (member : child ∈ tree.children) :
    child ∈ tree.nodes := by
  rcases tree with ⟨entry, children⟩
  rcases child with ⟨own, below⟩
  simp only at member
  rw [nodes]
  refine List.mem_cons_of_mem _ ?_
  induction children with
  | nil => simp at member
  | cons first rest induction =>
      rw [nodesAmong, List.mem_append]
      rcases List.mem_cons.mp member with rfl | later
      · left
        simp [nodes]
      · exact .inr (induction later)

mutual

/-- What is placed inside a node is placed inside the tree. -/
theorem exists_placements_subset_of_mem_nodes {tree node : Tree} (member : node ∈ tree.nodes)
    (around : List Entry) :
    ∃ inner, node.placements inner ⊆ tree.placements around := by
  match tree with
  | ⟨entry, children⟩ =>
      rw [nodes, List.mem_cons] at member
      rcases member with rfl | below
      · exact ⟨around, List.Subset.refl _⟩
      · rw [placements_mk]
        exact exists_placements_subset_of_mem_nodesAmong below around entry []

theorem exists_placements_subset_of_mem_nodesAmong {children : List Tree} {node : Tree}
    (member : node ∈ nodesAmong children) (around : List Entry) (parent : Entry)
    (earlier : List Entry) :
    ∃ inner, node.placements inner ⊆ placementsAmong around parent earlier children := by
  match children with
  | [] => simp [nodesAmong] at member
  | child :: rest =>
      rw [nodesAmong, List.mem_append] at member
      rw [placementsAmong_cons]
      rcases member with first | later
      · rcases exists_placements_subset_of_mem_nodes first (parent :: around) with ⟨inner, inside⟩
        exact ⟨inner, fun _ placed =>
          List.mem_cons_of_mem _ (List.mem_append_left _ (inside placed))⟩
      · rcases exists_placements_subset_of_mem_nodesAmong later around parent
          (earlier ++ [child.entry]) with ⟨inner, inside⟩
        exact ⟨inner, fun _ placed =>
          List.mem_cons_of_mem _ (List.mem_append_right _ (inside placed))⟩

end

/-- The children of a node come in the order that its kind admits, if all placements do. -/
theorem admitsInTurn_of_mem_nodes {tree node : Tree} {lines : List Line}
    (sound : ∀ placement ∈ tree.placements [], placement.IsSound lines)
    (member : node ∈ tree.nodes) :
    Grammar.AdmitsInTurn node.entry.kind (node.children.map fun child => child.entry.kind) := by
  intro before kind after split
  rcases List.map_eq_append_iff.mp split with ⟨first, others, children, rfl, further⟩
  rcases List.map_eq_cons_iff.mp further with ⟨child, rest, rfl, rfl, -⟩
  rcases exists_placements_subset_of_mem_nodes member [] with ⟨inner, inside⟩
  have admitted := (sound _ (inside (placement_mem_of_children inner children))).admitted
  simpa [Function.comp_def] using admitted

end Tree

/--
The grammar admits some kinds in turn below an empty container if and only if
they belong to the content model of the container.  So the children of every
node of every document, whatever is wrong with it, belong to the content model
of the node.
-/
theorem Grammar.admitsInTurn_iff_mem_contents :
    (∀ container kinds, AdmitsInTurn container kinds ↔ kinds ∈ (contents container).matches') ∧
      ∀ source, ∀ node ∈ (Outcome.ofSource source).tree.nodes,
        (node.children.map fun child => child.entry.kind) ∈
          (contents node.entry.kind).matches' := by
  refine ⟨admitsInTurn_iff, fun source node member => ?_⟩
  rw [← admitsInTurn_iff]
  have faithful := Outcome.ofSource_faithful source
  rw [Outcome.ofSource, Outcome.ofLines_tree] at member
  exact Tree.admitsInTurn_of_mem_nodes faithful.placed member

/-- A class whose second description and late inheritance are rejected. -/
def Outcome.overdescribed : String :=
  "class: A\n    description: d\n    description: e\n    var: x\n    inh: B\n    description: f"

/-- The class with what is left of it. -/
def Outcome.overdescribedClass : Tree :=
  (Outcome.ofSource overdescribed).tree.children.headD ⟨.root, []⟩

theorem Grammar.admitsInTurn_iff_mem_contents_overdescribed :
    Outcome.overdescribedClass ∈ (Outcome.ofSource Outcome.overdescribed).tree.nodes ∧
      [.description, .field, .description] ∈ (contents .classBlock).matches' := by
  have shape :
      ((Outcome.ofSource Outcome.overdescribed).tree.children.map fun child =>
        (child.entry.kind, child.children.map fun below => below.entry.kind)) =
      [(.classBlock, [.description, .field, .description])] := by
    decide +kernel
  rcases List.map_eq_singleton_iff.mp shape with ⟨child, only, same⟩
  rcases Prod.mk.inj same with ⟨kind, kinds⟩
  have first : Outcome.overdescribedClass = child := by
    rw [Outcome.overdescribedClass, only, List.headD_cons]
  have member :
      Outcome.overdescribedClass ∈ (Outcome.ofSource Outcome.overdescribed).tree.nodes := by
    apply Tree.mem_nodes_of_mem_children
    rw [first, only]
    exact List.mem_singleton_self child
  have belongs := admitsInTurn_iff_mem_contents.2 Outcome.overdescribed _ member
  rw [first, kinds, kind] at belongs
  exact ⟨member, belongs⟩

end Outline
