import DraftLisp.Builtin.Basic
import DraftLisp.Form.Reader
import DraftLisp.Numeric.Fixed

namespace DraftLisp.Builtin

open Numeric
open Value (expectNumber expectString)

namespace Strings

/-- The part of a text from a position on, counted from one; with a length, at most that long. -/
def substring (text : String) (start : Float) (length : List Float) : Except Error Value :=
  match position? (start - 1.0) with
  | none => .error (.eval (.substringStart start))
  | some skipped =>
    let chars := text.toList.drop skipped
    match length with
    | [] => string (String.ofList chars)
    | n :: _ =>
      match position? n with
      | some kept => string (String.ofList (chars.take kept))
      | none => .error (.eval (.substringLength n))

/-- Lowercase when asked for by a true value, uppercase otherwise. -/
def changeCase (text : String) (options : List Value) : String :=
  match options with
  | wanted :: _ => if wanted.isTruthy then Text.lower text else Text.upper text
  | [] => Text.upper text

/-- The bounds of the integers that are written with 64 bits. -/
def leastInteger : Int := -0x8000000000000000

def greatestInteger : Int := 0x7FFFFFFFFFFFFFFF

/-- The integer that a text starts with, if it fits 64 bits, and zero otherwise. -/
def leadingInteger (chars : List Char) : Int :=
  let (negative, rest) := splitSign (Text.dropBlanks chars)
  let digits := rest.takeWhile Char.isDigit
  let magnitude := digitsValueUpTo (leastInteger.natAbs + 1) digits
  let value : Int := if negative then -(magnitude : Int) else magnitude
  if digits ≠ [] ∧ leastInteger ≤ value ∧ value ≤ greatestInteger then value else 0

def isNumberChar (c : Char) : Bool :=
  c.isDigit || c = '+' || c = '-' || c = '.' || c = 'e' || c = 'E'

/-- The longest start of a text that reads as a finite number, and zero when there is none. -/
def leadingFloat (chars : List Char) : Float :=
  let run := (Text.dropBlanks chars).takeWhile isNumberChar
  let lengths := (List.range run.length).reverse
  (lengths.findSome? fun n => readFinite? (run.take (n + 1))).getD 0.0

/-- Mode 1 is scientific, every other mode is decimal. -/
def isScientific (mode : Float) : Bool := toInt64 mode = 1

/-- A text has at most this many digits after its point. In the scientific form the digit before the
point counts as well. -/
def placesLimit (mode : Float) : Nat := if isScientific mode then 65534 else 65535

/-- Decimal form and four places are the default. -/
def spellNumber (x : Float) (options : List Float) : Except Halt Value :=
  let mode := options.headD 2.0
  let places := toNat64 (options[1]?.getD 4.0)
  if placesLimit mode < places then .error .overlong
  else
    let chars := if isScientific mode then scientificChars places x else fixedChars places x
    .ok (.string (String.ofList chars))

/-- Surrogates and numbers beyond the last code point are no characters. -/
def character (code : Float) : Except Error Value :=
  let n := toNat32 code
  if 0.0 ≤ code && n.isValidChar then string (String.singleton (Char.ofNat n))
  else .error (.eval (.characterCode code))

def searchFrom (pattern : List Char) (place : Nat) : List Char → Option Nat
  | [] => if pattern.isEmpty then some place else none
  | c :: rest =>
    if pattern.isPrefixOf (c :: rest) then some place else searchFrom pattern (place + 1) rest

/-- A start beyond the end counts as the end. -/
def search (pattern text : String) (start : List Float) : Value :=
  let skipped := min ((start.head?.bind position?).getD 0) text.length
  .ofOption ((searchFrom pattern.toList skipped (text.toList.drop skipped)).map .ofNat)

def readData (text : String) : Except Error Value := do
  return match ← Reader.readText Reader.defaultLimit text with
    | form :: _ => .ofForm form
    | [] => .nil

end Strings

open Strings

def texts : List Builtin :=
  [function "STRCAT" .any (variadic strings fun parts => string (String.join parts)),
   function "STRLEN" .any (variadic strings fun parts => count (String.join parts).length),
   function "SUBSTR" (.between 2 3) (binaryRest expectString expectNumber numbers substring),
   function "STRCASE" (.between 1 2) (unaryRest expectString anyValues fun text options =>
     string (changeCase text options)),
   function "ATOI" (.exactly 1) (unary expectString fun text =>
     number (ofInt (leadingInteger text.toList))),
   function "ATOF" (.exactly 1) (unary expectString fun text => number (leadingFloat text.toList)),
   function "ITOA" (.exactly 1) (unary expectNumber fun x => string (intText (toInt64 x))),
   ⟨"RTOS", .between 1 3, .pure fun operands => do
     let readers := unaryRest expectNumber numbers fun x options => .ok (x, options)
     let (x, options) ← halting (readers operands)
     spellNumber x options⟩,
   function "CHR" (.exactly 1) (unary expectNumber character),
   function "ASCII" (.exactly 1) (unary expectString fun text =>
     count ((text.toList.head?.map Char.toNat).getD 0)),
   function "VL-STRING-SEARCH" (.between 2 3) (binaryRest expectString expectString numbers
     fun pattern text start => .ok (search pattern text start)),
   function "VL-PRINC-TO-STRING" (.exactly 1) (unary anyValue fun value =>
     string value.displayText),
   function "READ" (.exactly 1) (unary expectString readData)]

end DraftLisp.Builtin
