/-
**Blank characters.**

The characters of the Unicode property `White_Space`, and the removal of blanks at both ends of a
text. Every place that ignores surrounding blanks uses this one class:

* `isBlank` decides the class;
* `trim` removes the blanks at both ends and nothing else.
-/

namespace InfoModel.Text

/-- The Unicode property `White_Space`. -/
def isBlank (char : Char) : Bool :=
  let code := char.toNat
  (0x09 ≤ code && code ≤ 0x0D) || code == 0x20 || code == 0x85 || code == 0xA0 || code == 0x1680 ||
    (0x2000 ≤ code && code ≤ 0x200A) || code == 0x2028 || code == 0x2029 || code == 0x202F ||
    code == 0x205F || code == 0x3000

/-- The text without the blanks in front of it. -/
def trimStart (text : List Char) : List Char :=
  text.dropWhile isBlank

/-- The text without the blanks behind it. -/
def trimEnd (text : List Char) : List Char :=
  (text.reverse.dropWhile isBlank).reverse

/-- The text without the blanks at its two ends. -/
def trim (text : List Char) : List Char :=
  trimEnd (trimStart text)

/-- A text is blank when it holds no other character. -/
def allBlank (text : String) : Bool :=
  text.toList.all isBlank

end InfoModel.Text
