namespace Tracepoint.Text

/-- White space in the Unicode sense, and the four information separators of ASCII. -/
def isBlank (c : Char) : Bool :=
  let n := c.toNat
  (9 ≤ n && n ≤ 13) || (28 ≤ n && n ≤ 32) || n == 0x85 || n == 0xA0 || n == 0x1680 ||
    (0x2000 ≤ n && n ≤ 0x200A) || n == 0x2028 || n == 0x2029 || n == 0x202F || n == 0x205F ||
    n == 0x3000

def trimStart (cs : List Char) : List Char := cs.dropWhile isBlank

def trimEnd (cs : List Char) : List Char := (cs.reverse.dropWhile isBlank).reverse

def trim (cs : List Char) : List Char := trimEnd (trimStart cs)

/-- The stretches of a text between the characters that satisfy `p`, empty ones included. -/
def pieces (p : Char → Bool) : List Char → List (List Char)
  | [] => [[]]
  | c :: cs =>
    if p c then [] :: pieces p cs
    else match pieces p cs with
      | [] => [[c]]
      | w :: ws => (c :: w) :: ws

/-- The longest stretches without a blank. -/
def words (cs : List Char) : List (List Char) :=
  (pieces isBlank cs).filter (!·.isEmpty)

/-- What stands in front of the first `mark`, or all of the text. -/
def before (mark : Char) (cs : List Char) : List Char := cs.takeWhile (· != mark)

/-- What follows the first `mark`, or nothing. -/
def after (mark : Char) (cs : List Char) : List Char := (cs.dropWhile (· != mark)).drop 1

/-- What stands in front of the last `mark`, or nothing. -/
def beforeLast (mark : Char) (cs : List Char) : List Char := (after mark cs.reverse).reverse

/-- What stands between the first and the last `mark`; nothing unless there are two. -/
def between (mark : Char) (cs : List Char) : List Char := beforeLast mark (after mark cs)

theorem pieces_ne_nil (p : Char → Bool) (cs : List Char) : pieces p cs ≠ [] := by
  cases cs with
  | nil => simp [pieces]
  | cons c cs =>
    rw [pieces]
    split
    · simp
    · split <;> simp

theorem pieces_append_cons (p : Char → Bool) (a b : List Char) {c : Char} (h : p c = true) :
    pieces p (a ++ c :: b) = pieces p a ++ pieces p b := by
  induction a with
  | nil => simp [pieces, h]
  | cons x a ih =>
    rw [List.cons_append, pieces, pieces, ih]
    split
    · rfl
    · cases hp : pieces p a with
      | nil => exact absurd hp (pieces_ne_nil p a)
      | cons w ws => rfl

theorem not_mem_before (mark : Char) (cs : List Char) : mark ∉ before mark cs := by
  induction cs with
  | nil => simp [before]
  | cons c cs ih =>
    by_cases h : c = mark
    · simp [before, h]
    · have hb : before mark (c :: cs) = c :: before mark cs := by simp [before, h]
      rw [hb, List.mem_cons]
      exact fun hm => hm.elim (fun e => h e.symm) ih

theorem before_append_cons {mark : Char} {a : List Char} (b : List Char) (h : mark ∉ a) :
    before mark (a ++ mark :: b) = a := by
  induction a with
  | nil => simp [before]
  | cons x a ih =>
    rw [List.mem_cons, not_or] at h
    have hx : x ≠ mark := fun e => h.1 e.symm
    have := ih h.2
    simp_all [before]

theorem after_append_cons {mark : Char} {a : List Char} (b : List Char) (h : mark ∉ a) :
    after mark (a ++ mark :: b) = b := by
  induction a with
  | nil => simp [after]
  | cons x a ih =>
    rw [List.mem_cons, not_or] at h
    have hx : x ≠ mark := fun e => h.1 e.symm
    have := ih h.2
    simp_all [after]

theorem before_append_of_notMem {mark : Char} {a : List Char} (h : mark ∉ a) (b : List Char) :
    before mark (a ++ b) = a ++ before mark b := by
  apply List.takeWhile_append_of_pos
  intro c hc
  rw [bne_iff_ne]
  exact fun e => h (e ▸ hc)

theorem after_append_of_notMem {mark : Char} {a : List Char} (h : mark ∉ a) (b : List Char) :
    after mark (a ++ b) = after mark b := by
  rw [after, after, List.dropWhile_append_of_pos]
  intro c hc
  rw [bne_iff_ne]
  exact fun e => h (e ▸ hc)

theorem beforeLast_append_cons {mark : Char} (a : List Char) {b : List Char} (h : mark ∉ b) :
    beforeLast mark (a ++ mark :: b) = a := by
  have hr : (a ++ mark :: b).reverse = b.reverse ++ mark :: a.reverse := by simp
  rw [beforeLast, hr, after_append_cons _ (by simpa using h), List.reverse_reverse]

/-- Marks inside the text between the outer two do not matter. -/
theorem between_append_cons {mark : Char} {a c : List Char} (b : List Char)
    (ha : mark ∉ a) (hc : mark ∉ c) : between mark (a ++ mark :: (b ++ mark :: c)) = b := by
  rw [between, after_append_cons _ ha, beforeLast_append_cons _ hc]

end Tracepoint.Text
