/-
The text tests `calculate_packet_loss` applies to each line of a log: the substring test
`keyword in line` and `re.search(r'<word> (\d+) packets', line)`. A match of that pattern at a
position is the word, a space, the maximal run of digits after it, and ` packets`: the greedy
`\d+` can only give digits back, and a shorter run leaves a digit where the pattern wants a space,
so backtracking finds no other match there. `re.search` returns the leftmost match, which is the
head of `allCounters`, the list of every match of the line.
-/
import Mathlib.Data.List.Infix
import Mathlib.Algebra.Order.Ring.Nat

namespace SueSim.Loss

/-- `pat in line`, over the characters of both. -/
def occursIn (pat : List Char) : List Char → Bool
  | [] => pat.isPrefixOf []
  | c :: cs => pat.isPrefixOf (c :: cs) || occursIn pat cs

/-- The number of positions of a line where `word` starts. -/
def occurrences (word : List Char) : List Char → ℕ
  | [] => if word.isPrefixOf [] then 1 else 0
  | c :: cs => (if word.isPrefixOf (c :: cs) then 1 else 0) + occurrences word cs

/-- `int(ds)` of a run of decimal digits. -/
def digitsValue (ds : List Char) : ℕ := ds.foldl (fun n c => 10 * n + (c.toNat - '0'.toNat)) 0

/-- The number captured by a match of `<word> (\d+) packets` starting at the head of `cs`, if the
pattern matches there. `\d` is read as an ASCII digit, as the simulator writes its logs. -/
def counterAt (word cs : List Char) : Option ℕ :=
  if (word ++ [' ']).isPrefixOf cs then
    let rest := cs.drop (word.length + 1)
    let ds := rest.takeWhile Char.isDigit
    if ds ≠ [] ∧ " packets".toList.isPrefixOf (rest.dropWhile Char.isDigit) then some (digitsValue ds)
    else none
  else none

/-- `re.search(r'<word> (\d+) packets', line)`: the number captured by the leftmost match. -/
def searchCounter (word : List Char) : List Char → Option ℕ
  | [] => counterAt word []
  | c :: cs => (counterAt word (c :: cs)).orElse fun _ => searchCounter word cs

/-- Every match of `<word> (\d+) packets` in a line, left to right. -/
def allCounters (word : List Char) : List Char → List ℕ
  | [] => (counterAt word []).toList
  | c :: cs => (counterAt word (c :: cs)).toList ++ allCounters word cs

theorem occursIn_iff (pat : List Char) : ∀ l, occursIn pat l = true ↔ pat <:+: l
  | [] => by simp [occursIn]
  | c :: cs => by
    rw [occursIn, Bool.or_eq_true, occursIn_iff pat cs, List.isPrefixOf_iff_prefix,
      List.infix_cons_iff]

theorem occursIn_of_infix {p q l : List Char} (hpq : p <:+: q) (h : occursIn q l = true) :
    occursIn p l = true :=
  (occursIn_iff p l).2 (hpq.trans ((occursIn_iff q l).1 h))

theorem occurrences_pos_iff (word : List Char) :
    ∀ l, 0 < occurrences word l ↔ occursIn word l = true
  | [] => by by_cases h : word.isPrefixOf [] <;> simp [occurrences, occursIn, h]
  | c :: cs => by
    rw [occurrences, occursIn, Bool.or_eq_true, ← occurrences_pos_iff word cs]
    by_cases h : word.isPrefixOf (c :: cs) <;> simp [h]

theorem prefix_of_counterAt {word cs : List Char} {n : ℕ} (h : counterAt word cs = some n) :
    word.isPrefixOf cs = true := by
  unfold counterAt at h
  split at h
  · rename_i hp
    rw [List.isPrefixOf_iff_prefix] at hp ⊢
    exact (List.prefix_append word [' ']).trans hp
  · cases h

/-- `re.search` finds the first of all the matches. -/
theorem searchCounter_eq_head? (word : List Char) :
    ∀ l, searchCounter word l = (allCounters word l).head?
  | [] => by cases h : counterAt word [] <;> simp [searchCounter, allCounters, h]
  | c :: cs => by
    cases h : counterAt word (c :: cs) <;>
      simp [searchCounter, allCounters, h, searchCounter_eq_head? word cs, Option.orElse]

/-- A line has no more matches of a pattern than positions where its word starts. -/
theorem length_allCounters_le (word : List Char) :
    ∀ l, (allCounters word l).length ≤ occurrences word l
  | [] => by
    cases h : counterAt word [] with
    | none => simp [allCounters, h]
    | some n => simp [allCounters, occurrences, h, prefix_of_counterAt h]
  | c :: cs => by
    have := length_allCounters_le word cs
    cases h : counterAt word (c :: cs) with
    | none => simp [allCounters, occurrences, h]; omega
    | some n => simp [allCounters, occurrences, h, prefix_of_counterAt h]; omega

/-- On a line with at most one position where the word starts, the matches sum to the first. -/
theorem sum_allCounters_of_occurrences_le_one {word l : List Char}
    (h : occurrences word l ≤ 1) : (allCounters word l).sum = (allCounters word l).headD 0 := by
  have := (length_allCounters_le word l).trans h
  match hl : allCounters word l, this with
  | [], _ => rfl
  | [n], _ => simp
  | _ :: _ :: _, h2 => simp at h2

theorem allCounters_eq_nil_of_not_occursIn {word l : List Char} (h : occursIn word l = false) :
    allCounters word l = [] := by
  have h0 : occurrences word l = 0 := by
    by_contra hne; simp [(occurrences_pos_iff word l).1 (Nat.pos_of_ne_zero hne)] at h
  exact List.eq_nil_of_length_eq_zero (Nat.le_zero.1 (h0 ▸ length_allCounters_le word l))

end SueSim.Loss
