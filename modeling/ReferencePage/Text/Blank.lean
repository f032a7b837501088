import ReferencePage.Text.Basic

/-! White space, and the operations that look no further than it: trimming, cutting into words and
cutting into lines. -/
namespace ReferencePage.Text

/- The characters with the property White_Space. -/
def isBlank (c : Char) : Bool :=
  let n := c.toNat
  (9 ≤ n && n ≤ 13) || n = 0x20 || n = 0x85 || n = 0xA0 || n = 0x1680 || (0x2000 ≤ n && n ≤ 0x200A)
    || n = 0x2028 || n = 0x2029 || n = 0x202F || n = 0x205F || n = 0x3000

def trimStart (t : Text) : Text := t.dropWhile isBlank

def trimEnd (t : Text) : Text := (t.reverse.dropWhile isBlank).reverse

def trim (t : Text) : Text := trimEnd (trimStart t)

def afterBlanks? (t : Text) : Option Text :=
  match t with
  | c :: _ => if isBlank c then some (trimStart t) else none
  | [] => none

def words (t : Text) : List Text := (t.splitOnP isBlank).filter (· ≠ [])

/-- Every run of blanks becomes one space, and none is left at the ends. -/
def collapse (t : Text) : Text := join [' '] (words t)

def dropReturn (line : Text) : Text :=
  if line.getLast? = some '\r' then line.dropLast else line

/- The last part has no line feed behind it: it keeps its carriage return, and it is no line at all
when it is empty. -/
def lineParts : List Text → List Text
  | [] => []
  | [last] => if last = [] then [] else [last]
  | part :: next :: parts => dropReturn part :: lineParts (next :: parts)

/-- Lines end with a line feed, or with a carriage return and a line feed. -/
def lines (t : Text) : List Text := lineParts (t.splitOn '\n')

theorem length_trimStart_le (t : Text) : (trimStart t).length ≤ t.length :=
  (List.dropWhile_sublist isBlank).length_le

theorem length_afterBlanks? {t rest : Text} (found : afterBlanks? t = some rest) :
    rest.length < t.length := by
  unfold afterBlanks? at found
  split at found
  · rename_i c u
    split at found
    · rename_i blank
      obtain rfl := Option.some.inj found
      have := length_trimStart_le u
      simp only [trimStart, List.dropWhile_cons, blank, List.length_cons, if_true] at this ⊢
      omega
    · simp at found
  · simp at found

end ReferencePage.Text
