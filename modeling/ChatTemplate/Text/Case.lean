/-
# ChatTemplate.Text.Case -- upper and lower case

Case mapping of whole texts.  A letter may become several letters (`ß` is `SS`
in upper case).  Only one letter depends on its neighbours: a capital sigma that
ends a word becomes the final sigma, where marks and punctuation such as the
apostrophe are skipped when looking for the neighbouring letters.
-/
import ChatTemplate.Text.CaseTable
import ChatTemplate.Text.Word

namespace ChatTemplate.Text

set_option autoImplicit false

/-- The form of one letter: a listed sequence, else the letter of its run, else
the letter itself. -/
def caseForm (runs : List CaseRun) (sequences : List (Nat × List Nat)) (c : Char) :
    List Char :=
  match sequences.lookup c.toNat with
  | some codes => codes.map Char.ofNat
  | none =>
      match runs.find? (·.contains c.toNat) with
      | some run => [Char.ofNat ((c.toNat : Int) + run.offset).toNat]
      | none => [c]

def upperChar (c : Char) : List Char :=
  if c.toNat < 0x80 then [c.toUpper] else caseForm upperRuns upperSequences c

def lowerChar (c : Char) : List Char :=
  if c.toNat < 0x80 then [c.toLower] else caseForm lowerRuns lowerSequences c

def upper (text : List Char) : List Char :=
  text.flatMap upperChar

/-- Whether the next letter, past the characters that case ignores, has a case. -/
def casedAhead (text : List Char) : Bool :=
  (text.dropWhile (inRanges caseIgnorableRanges)).head?.any (inRanges casedRanges)

/-- A capital sigma with a cased letter before it and none after it ends a word. -/
def lower (text : List Char) : List Char :=
  go [] text
where
  /-- `before` holds the characters already read, the last one first. -/
  go (before : List Char) : List Char → List Char
    | [] => []
    | c :: text =>
        let form :=
          if c = 'Σ' then
            if casedAhead before && !casedAhead text then ['ς'] else ['σ']
          else lowerChar c
        form ++ go (c :: before) text

def upperString (s : String) : String :=
  String.ofList (upper s.toList)

def lowerString (s : String) : String :=
  String.ofList (lower s.toList)

end ChatTemplate.Text
