/-! Texts as lists of characters: the blanks around them, their letters in
capitals, and how they are cut at marks. -/

namespace ClusterRouting.Text

/-! ## Blanks -/

/-- Whether a character has the Unicode property White_Space. -/
def isBlank (character : Char) : Bool :=
  let code := character.toNat
  (0x09 ≤ code && code ≤ 0x0d) || code == 0x20 || code == 0x85 ||
    code == 0xa0 || code == 0x1680 || (0x2000 ≤ code && code ≤ 0x200a) ||
    code == 0x2028 || code == 0x2029 || code == 0x202f || code == 0x205f ||
    code == 0x3000

def trim (text : List Char) : List Char :=
  ((text.dropWhile isBlank).reverse.dropWhile isBlank).reverse

example : trim "\t a b \u3000".toList = "a b".toList := by decide

example : trim " \u200b ".toList = ['\u200b'] := by decide

/-! ## Capitals

A word is compared with an ASCII word only. The full capital form of most
letters outside ASCII holds a character outside ASCII, and such a word differs
from every ASCII word whichever character it is. So only the letters whose
capital form lies in ASCII have to be replaced. -/

def capital (character : Char) : List Char :=
  match character with
  | 'ı' => ['I']
  | 'ſ' => ['S']
  | 'ß' => ['S', 'S']
  | '\ufb00' => ['F', 'F']
  | '\ufb01' => ['F', 'I']
  | '\ufb02' => ['F', 'L']
  | '\ufb03' => ['F', 'F', 'I']
  | '\ufb04' => ['F', 'F', 'L']
  | '\ufb05' => ['S', 'T']
  | '\ufb06' => ['S', 'T']
  | letter => [letter.toUpper]

def capitals (text : List Char) : List Char :=
  text.flatMap capital

def spells (text : String) (word : String) : Bool :=
  capitals text.toList == word.toList

/-! ## Cutting -/

def begins (start text : String) : Bool :=
  start.toList.isPrefixOf text.toList

def cut? (mark : Char) : List Char → Option (List Char × List Char)
  | [] => none
  | head :: rest =>
      if head = mark then some ([], rest)
      else (cut? mark rest).map fun (before, after) => (head :: before, after)

def after? (mark : List Char) : List Char → Option (List Char)
  | [] => if mark.isEmpty then some [] else none
  | head :: rest =>
      if mark.isPrefixOf (head :: rest) then
        some ((head :: rest).drop mark.length)
      else after? mark rest

def pieces (isMark : Char → Bool) : List Char → List (List Char)
  | [] => [[]]
  | head :: rest =>
      if isMark head then [] :: pieces isMark rest
      else
        match pieces isMark rest with
        | [] => [[head]]
        | first :: others => (head :: first) :: others

def afterLast (mark : Char) (text : List Char) : List Char :=
  (text.reverse.takeWhile (· != mark)).reverse

example : pieces (· == '.') "3..1".toList = [['3'], [], ['1']] := by decide

example : afterLast '/' "a/b/3.2".toList = "3.2".toList := by decide

end ClusterRouting.Text
