/-! White space, as the Unicode property White_Space has it, and cutting text at it. -/
namespace HostLookup.Text

/-- The twenty-five characters with the property White_Space. -/
def isBlank (c : Char) : Bool :=
  let n := c.toNat
  (0x09 ≤ n && n ≤ 0x0D) || n == 0x20 || n == 0x85 || n == 0xA0 || n == 0x1680 ||
    (0x2000 ≤ n && n ≤ 0x200A) || n == 0x2028 || n == 0x2029 || n == 0x202F || n == 0x205F ||
    n == 0x3000

def trim (cs : List Char) : List Char :=
  ((cs.dropWhile isBlank).reverse.dropWhile isBlank).reverse

theorem length_dropWhile_le {α : Type} (p : α → Bool) (l : List α) :
    (l.dropWhile p).length ≤ l.length := by
  have whole := congrArg List.length (List.takeWhile_append_dropWhile (p := p) (l := l))
  rw [List.length_append] at whole
  omega

theorem length_after_run {p q : Char → Bool} {cs rest : List Char} {c : Char}
    (h : cs.dropWhile p = c :: rest) : (rest.dropWhile q).length < cs.length := by
  have found := length_dropWhile_le p cs
  have after := length_dropWhile_le q rest
  rw [h, List.length_cons] at found
  omega

/-- The maximal runs of characters that are no separators, in order of appearance. -/
def tokens (isSeparator : Char → Bool) (cs : List Char) : List (List Char) :=
  match _head : cs.dropWhile isSeparator with
  | [] => []
  | c :: rest =>
    (c :: rest.takeWhile (!isSeparator ·)) :: tokens isSeparator (rest.dropWhile (!isSeparator ·))
termination_by cs.length
decreasing_by exact length_after_run _head

end HostLookup.Text
