namespace OpenApiTypes
namespace Shell

/-!
# Escapes and character sets

Tools that write text know escapes for octets, and one of them replaces the octets of
one set by those of another.
-/

/-- The octets of a text. -/
def octets (text : String) : List UInt8 :=
  text.toUTF8.toList

/-- The octet of a number. -/
def octet (number : Nat) : UInt8 :=
  UInt8.ofNat (number % 256)

/-- The value of an octal digit. -/
def octal? (character : Char) : Option Nat :=
  if '0' <= character && character <= '7' then some (character.toNat - 48) else none

/-- The octet of an escape of one letter. -/
def letterEscape? (character : Char) : Option UInt8 :=
  match character with
  | 'a' => some 7
  | 'b' => some 8
  | 't' => some 9
  | 'n' => some 10
  | 'v' => some 11
  | 'f' => some 12
  | 'r' => some 13
  | '\\' => some 92
  | _ => none

/-- How far an escape has been read. -/
inductive Escape where
  | none
  /-- A backslash has been read. -/
  | started
  /-- Octal digits have been read; at most `left` more belong to the number. -/
  | octal (value left : Nat)

/-- Replace escapes by octets.  Octal numbers have up to three digits, before which
`zeroFirst` asks for a zero. -/
def unescapeFrom (zeroFirst : Bool) : Escape -> List Char -> List UInt8
  | .none, [] => []
  | .started, [] => [92]
  | .octal value _, [] => [octet value]
  | .none, character :: rest =>
      if character = '\\' then unescapeFrom zeroFirst .started rest
      else octets (String.singleton character) ++ unescapeFrom zeroFirst .none rest
  | .started, character :: rest =>
      match letterEscape? character, octal? character with
      | some value, _ => value :: unescapeFrom zeroFirst .none rest
      | _, some digit =>
          if !zeroFirst then unescapeFrom zeroFirst (.octal digit 2) rest
          else if digit = 0 then unescapeFrom zeroFirst (.octal 0 3) rest
          else 92 :: octets (String.singleton character) ++ unescapeFrom zeroFirst .none rest
      | _, _ => 92 :: octets (String.singleton character) ++ unescapeFrom zeroFirst .none rest
  | .octal value left, character :: rest =>
      match left, octal? character with
      | left + 1, some digit => unescapeFrom zeroFirst (.octal (8 * value + digit) left) rest
      | _, _ =>
          octet value ::
            (if character = '\\' then unescapeFrom zeroFirst .started rest
            else octets (String.singleton character) ++ unescapeFrom zeroFirst .none rest)

/-- Replace escapes by octets. -/
def unescape (zeroFirst : Bool) (text : String) : List UInt8 :=
  unescapeFrom zeroFirst .none text.toList

/-- The octets from one to another. -/
def octetRange (first last : UInt8) : List UInt8 :=
  (List.range (last.toNat + 1 - first.toNat)).map (fun step => octet (first.toNat + step))

/-- Write ranges out. -/
def expandRanges : List UInt8 -> List UInt8
  | first :: 45 :: last :: rest => octetRange first last ++ expandRanges rest
  | single :: rest => single :: expandRanges rest
  | [] => []

/-- The octets of a set: a class of letters or digits, or octets with ranges. -/
def octetSet (text : String) : List UInt8 :=
  match text with
  | "[:lower:]" => octetRange 97 122
  | "[:upper:]" => octetRange 65 90
  | "[:digit:]" => octetRange 48 57
  | _ => expandRanges (unescape false text)

/-- The octet that replaces one.  The last member of the second set stands for all
further ones. -/
def replacement (source target : List UInt8) (given : UInt8) : UInt8 :=
  match source.idxOf? given with
  | none => given
  | some index => (target[index]?.orElse (fun _ => target.getLast?)).getD given

end Shell
end OpenApiTypes
