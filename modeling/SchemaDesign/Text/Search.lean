/-!
# Searching and replacing

Substrings, prefixes and replacement on texts as lists of characters.
-/

namespace SchemaDesign.Text

/-- What follows a given start of the text, if the text starts so. -/
def afterStart? : List Char → List Char → Option (List Char)
  | [], text => some text
  | _ :: _, [] => none
  | p :: start, c :: text => if p = c then afterStart? start text else none

theorem length_of_afterStart?
    {start text after : List Char} (found : afterStart? start text = some after) :
    after.length + start.length = text.length := by
  induction start generalizing text with
  | nil => simp_all [afterStart?]
  | cons p start induction =>
      cases text with
      | nil => simp [afterStart?] at found
      | cons c text =>
          simp only [afterStart?] at found
          split at found
          · have := induction found
            simp only [List.length_cons]
            omega
          · simp at found

/-- Whether a text begins with another. -/
def startsWith (start text : List Char) : Bool :=
  (afterStart? start text).isSome

/-- Whether a text ends with another. -/
def endsWith (finish text : List Char) : Bool :=
  startsWith finish.reverse text.reverse

/-- The first place where a part occurs: the text before it and the text after it. -/
def cutAt? (part : List Char) : List Char → Option (List Char × List Char)
  | [] => if part.isEmpty then some ([], []) else none
  | c :: text =>
      match afterStart? part (c :: text) with
      | some after => some ([], after)
      | none => (cutAt? part text).map fun found => (c :: found.1, found.2)

theorem length_of_cutAt?
    {part text before after : List Char} (found : cutAt? part text = some (before, after)) :
    before.length + part.length + after.length = text.length := by
  induction text generalizing before with
  | nil =>
      simp only [cutAt?] at found
      split at found
      · rename_i empty
        simp_all
      · simp at found
  | cons c text induction =>
      simp only [cutAt?] at found
      split at found
      · rename_i rest started
        have := length_of_afterStart? started
        simp_all
        omega
      · obtain ⟨⟨before', after'⟩, foundLater, equality⟩ := Option.map_eq_some_iff.1 found
        simp only [Prod.mk.injEq] at equality
        obtain ⟨rfl, rfl⟩ := equality
        have := induction foundLater
        simp only [List.length_cons]
        omega

/-- Whether a part occurs somewhere in the text. -/
def occurs (part text : List Char) : Bool :=
  (cutAt? part text).isSome

/-- The string with every occurrence of one character written as another text. -/
def replaceChar (old : Char) (new : List Char) (s : String) : String :=
  String.ofList (s.toList.flatMap fun c => if c = old then new else [c])

/-- The string with every occurrence of a character written twice. -/
def doubled (mark : Char) (s : String) : String :=
  replaceChar mark [mark, mark] s

/-- The text in which each pair of neighbouring marks, read from the left, stands as one mark. -/
def undoubled (mark : Char) : List Char → List Char
  | [] => []
  | [c] => [c]
  | c :: d :: rest =>
      if c = mark ∧ d = mark then
        mark :: undoubled mark rest
      else
        c :: undoubled mark (d :: rest)

end SchemaDesign.Text
