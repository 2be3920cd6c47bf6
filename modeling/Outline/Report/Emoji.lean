import Outline.Report.EmojiNames
import Outline.Report.Terminal

/-!
# Emoji by name

A terminal that finds emoji in a table.  The name of an emoji is given in small
letters; it may end in a variant, which asks for the picture or for the plain
sign.
-/

namespace Outline.Report.Emoji

open Outline.Text

/-- The emoji of a name in small letters. -/
def find? (name : String) : Option (List Char) :=
  names.findSome? fun named => (named.find? fun item => item.1 = name).map Prod.snd

/-- The variants of an emoji, and the selectors for them. -/
def variants : List (String × String) :=
  [("-emoji", "\ufe0f"), ("-text", "\ufe0e")]

/-- A name without the variant at its end, and the selector for the variant. -/
def splitVariant (name : List Char) : List Char × String :=
  match variants.find? fun item => item.1.toList.isSuffixOf name with
  | none => (name, "")
  | some item => (name.take (name.length - item.1.toList.length), item.2)

/-- The emoji that is shown for a name, with its variant, if there is one. -/
def emojiOf? (name : List Char) : Option (List Char) :=
  let (base, selector) := splitVariant name
  (find? (String.ofList (base.map Char.toLower))).map (· ++ selector.toList)

/-- What is shown for a name between two colons. -/
def replacement (emoji? : List Char → Option (List Char)) (name : List Char) : List Char :=
  (emoji? name).getD (':' :: name ++ [':'])

/-- What is known after some characters. -/
structure Scan where
  /-- What is shown, the last character first. -/
  shown : List Char := []
  /-- The characters after a colon that may open a name, the last one first. -/
  name : Option (List Char) := none

/-- Reads one character. -/
def Scan.read (emoji? : List Char → Option (List Char)) (scan : Scan) (character : Char) : Scan :=
  match scan.name with
  | none =>
    if character = ':' then
      { scan with name := some [] }
    else
      { scan with shown := character :: scan.shown }
  | some name =>
    if character = ':' then
      { shown := (replacement emoji? name.reverse).reverse ++ scan.shown }
    else if isBlank character then
      { shown := character :: name ++ ':' :: scan.shown }
    else
      { scan with name := some (character :: name) }

/-- What is shown at the end. -/
def Scan.finish (scan : Scan) : List Char :=
  match scan.name with
  | none => scan.shown.reverse
  | some name => (name ++ ':' :: scan.shown).reverse

/-- A text with all names between colons shown as emoji. -/
def replaceNames (emoji? : List Char → Option (List Char)) (text : List Char) : List Char :=
  (text.foldl (Scan.read emoji?) {}).finish

/-- The terminal that shows the emoji of the table. -/
def terminal : Terminal where
  emoji? := emojiOf?
  display := fun text => String.ofList (replaceNames emojiOf? text.toList)

end Outline.Report.Emoji
