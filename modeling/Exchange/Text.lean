import Mathlib.Data.List.Basic

/-! Text as the characters of a string, with the functions on strings that
services use to normalise what they are sent. -/
namespace Exchange

abbrev Text := List Char

instance : LawfulBEq Text := inferInstance

namespace Text

/-- White space and line terminators, which `trim` removes. -/
def isSpace (char : Char) : Bool :=
  char.toNat ∈ [9, 10, 11, 12, 13, 32, 160, 5760, 8232, 8233, 8239, 8287, 12288, 65279] ||
    (8192 ≤ char.toNat && char.toNat ≤ 8202)

def trim (text : Text) : Text :=
  ((text.dropWhile isSpace).reverse.dropWhile isSpace).reverse

def toLowerCase (text : Text) : Text := text.map Char.toLower

def toUpperCase (text : Text) : Text := text.map Char.toUpper

end Text
end Exchange
