/-
# ChatTemplate.Text.Search -- finding, splitting and replacing

Everything here comes from two functions.  `breakOn?` finds the first
occurrence of a pattern and gives the text on either side of it; `splitOn` cuts
a text at every occurrence, scanning left to right and never rescanning what an
occurrence covered.  Replacing the first occurrence, or all of them, puts a
value where the pattern stood (`replaceFirst`, `replaceAll`).
-/
namespace ChatTemplate.Text

set_option autoImplicit false

/-! ## Prefixes and suffixes -/

/-- What follows `pat` in a text that begins with it. -/
def stripPrefix? : List Char → List Char → Option (List Char)
  | [], text => some text
  | _ :: _, [] => none
  | p :: pat, c :: text => if p = c then stripPrefix? pat text else none

/-- What precedes `pat` in a text that ends with it. -/
def stripSuffix? (pat text : List Char) : Option (List Char) :=
  (stripPrefix? pat.reverse text.reverse).map List.reverse

def startsWith (pat text : List Char) : Bool :=
  (stripPrefix? pat text).isSome

def endsWith (pat text : List Char) : Bool :=
  (stripSuffix? pat text).isSome

/-- Removes `pat` from the front as often as it stands there. -/
def stripAll (pat : List Char) (text : List Char) : List Char :=
  go text.length text
where
  go : Nat → List Char → List Char
    | 0, text => text
    | n + 1, text =>
        match stripPrefix? pat text with
        | some rest => go n rest
        | none => text

/-! ## The first occurrence -/

/-- The text before and after the first occurrence of `pat`. -/
def breakOn? (pat : List Char) : List Char → Option (List Char × List Char)
  | [] => if pat.isEmpty then some ([], []) else none
  | c :: text =>
      match stripPrefix? pat (c :: text) with
      | some rest => some ([], rest)
      | none => (breakOn? pat text).map fun parts => (c :: parts.1, parts.2)

def contains (pat text : List Char) : Bool :=
  (breakOn? pat text).isSome

/-- The text before and after the first character that passes a test. -/
def breakWhere? (test : Char → Bool) : List Char → Option (List Char × List Char)
  | [] => none
  | c :: text =>
      if test c then some ([], text)
      else (breakWhere? test text).map fun parts => (c :: parts.1, parts.2)

/-- How many characters precede the first occurrence of `pat`. -/
def indexOf? (pat text : List Char) : Option Nat :=
  (breakOn? pat text).map fun parts => parts.1.length

/-- The text with `value` in place of the first occurrence of `pat`. -/
def replaceFirst (pat value text : List Char) : List Char :=
  match breakOn? pat text with
  | some (before, after) => before ++ value ++ after
  | none => text

/-! ## Every occurrence -/

/-- The pieces of the text between the occurrences of a non-empty `sep`.  The
counter is the number of characters still covered by the last occurrence. -/
def splitOn (sep : List Char) (text : List Char) : List (List Char) :=
  go 0 text
where
  go : Nat → List Char → List (List Char)
    | _, [] => [[]]
    | covered + 1, _ :: text => go covered text
    | 0, c :: text =>
        if startsWith sep (c :: text) then [] :: go (sep.length - 1) text
        else
          match go 0 text with
          | [] => [[c]]
          | piece :: pieces => (c :: piece) :: pieces

/-- The pieces one after the other, with `sep` between neighbours. -/
def join (sep : List Char) (pieces : List (List Char)) : List Char :=
  List.intercalate sep pieces

/-- The text with `value` in place of every occurrence of a non-empty `pat`. -/
def replaceAll (pat value text : List Char) : List Char :=
  join value (splitOn pat text)

/-! ## For stored strings -/

/-- Lower-case letters for the ASCII capitals, everything else as it is. -/
def asciiLower (text : List Char) : List Char :=
  text.map Char.toLower

/-- Equal when the case of ASCII letters is ignored. -/
def sameIgnoringAsciiCase (a b : String) : Bool :=
  asciiLower a.toList == asciiLower b.toList

end ChatTemplate.Text
