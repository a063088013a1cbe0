/-
`contains_valid_data` and `find_default_log_file`, which choose the log that `main` analyses when
none is named. The search takes the first of the preferred names that holds valid data, then the
first listed `*.log` file that does, and only then the newest file. Every file it returns is a
listed one. A log on which `calculate_packet_loss` returns numbers has a line with `Summary: Sent`,
so its text passes `contains_valid_data` (`containsValidData_of_calculatePacketLoss`). Hence the
search never falls back to the newest file while the directory holds a log that
`calculate_packet_loss` can analyse.
-/
import SueSimProofs.Loss.Analyzer
import Mathlib.Data.String.Basic
import Mathlib.Algebra.BigOperators.Group.List

namespace SueSim.Loss

/-- The keywords `contains_valid_data` looks for. -/
def validDataKeywords : List String :=
  ["Summary: Sent", "Received", "Dropped", "Sent", "packets", "Total"]

/-- `contains_valid_data` on the text of a file that can be read. -/
def containsValidData (content : String) : Bool :=
  validDataKeywords.any fun k => occursIn k.toList content.toList

/-- A `*.log` file of the log directory: its path, the lines `calculate_packet_loss` iterates over
(each with its line end), and `st_mtime`. -/
structure LogFile where
  path : String
  lines : List String
  mtime : ℕ

/-- The text `file.read()` returns: the lines one after the other. -/
def LogFile.content (f : LogFile) : String := String.join f.lines

/-- `possible_files`, in the order the search tries them. -/
def possibleFiles : List String :=
  ["../../log/sue-sim.log", "../../log/sue-sim.log", "../../log/app.log"]

/-- `max(log_files, key=lambda x: x.stat().st_mtime)` on a non-empty list: the first file of
greatest time, as `max` keeps its current value on ties. -/
def latestFile (f : LogFile) : List LogFile → LogFile
  | [] => f
  | g :: gs => latestFile (if f.mtime < g.mtime then g else f) gs

/-- `find_default_log_file`, given whether `../../log` exists and the files `glob("*.log")` lists
there. The paths of a directory listing are distinct, so the file a preferred path names is the
listed file of that path. -/
def findDefaultLogFile (logDirExists : Bool) (logFiles : List LogFile) : Option String :=
  if logDirExists then
    match possibleFiles.find? fun p => logFiles.any fun f => f.path == p && containsValidData f.content with
    | some p => some p
    | none =>
      match logFiles.find? fun f => containsValidData f.content with
      | some f => some f.path
      | none =>
        match logFiles with
        | [] => none
        | f :: fs => some (latestFile f fs).path
  else none

/-! ## `contains_valid_data` accepts every log that can be analysed -/

theorem mem_latestFile (f : LogFile) : ∀ gs, latestFile f gs ∈ f :: gs
  | [] => List.mem_singleton_self f
  | g :: gs => by
    rw [latestFile]
    split_ifs
    · exact List.mem_cons_of_mem _ (mem_latestFile g gs)
    · rcases List.mem_cons.1 (mem_latestFile f gs) with h | h
      · rw [h]; exact List.mem_cons_self _ _
      · exact List.mem_cons_of_mem _ (List.mem_cons_of_mem _ h)

theorem occursIn_join {pat : List Char} {log : List String} {l : String} (hl : l ∈ log)
    (h : occursIn pat l.toList = true) : occursIn pat (String.join log).toList = true := by
  have hinf : l.toList <:+: (String.join log).toList := by
    show l.data <:+: (String.join log).data
    rw [String.data_join]
    exact List.infix_of_mem_flatten (List.mem_map_of_mem _ hl)
  exact (occursIn_iff _ _).2 (((occursIn_iff _ _).1 h).trans hinf)

/-- A log whose loop counts a sent packet has a line containing `Summary: Sent`. -/
theorem exists_summary_of_sent_pos {log : List String} (h : 0 < (lossTotals log).sent) :
    ∃ l ∈ log, occursIn "Summary: Sent".toList l.toList = true := by
  rw [lossTotals_eq_sum] at h
  by_contra hne
  have hzero : (log.map fun l => lineSent l.toList).sum = 0 := List.sum_eq_zero fun n hn => by
    obtain ⟨l, hl, rfl⟩ := List.mem_map.1 hn
    rw [lineSent, if_neg fun hs => hne ⟨l, hl, hs⟩]
  exact h.ne' hzero

/-- `calculate_packet_loss` returns numbers only on a log whose text passes `contains_valid_data`. -/
theorem containsValidData_of_calculatePacketLoss {log : List String} {r : LossReport}
    (h : calculatePacketLoss log = .ok r) : containsValidData (String.join log) = true := by
  have hsent : 0 < (lossTotals log).sent := by
    by_contra h0
    simp [calculatePacketLoss, Nat.eq_zero_of_not_pos h0] at h
  obtain ⟨l, hl, hs⟩ := exists_summary_of_sent_pos hsent
  exact List.any_eq_true.2 ⟨_, List.mem_cons_self _ _, occursIn_join hl hs⟩

/-! ## The search -/

/-- The two outcomes of the search in an existing directory: a listed file with valid data, or,
when no listed file has any, the newest file. -/
theorem findDefaultLogFile_true (fs : List LogFile) :
    (∃ g ∈ fs, containsValidData g.content = true ∧ findDefaultLogFile true fs = some g.path) ∨
      ((∀ g ∈ fs, containsValidData g.content = false) ∧
        findDefaultLogFile true fs = fs.head?.map fun f => (latestFile f fs.tail).path) := by
  unfold findDefaultLogFile
  rw [if_pos rfl]
  split
  · next p hp =>
    have hp' := List.find?_some hp
    obtain ⟨g, hg, hgp⟩ := List.any_eq_true.1 hp'
    rw [Bool.and_eq_true, beq_iff_eq] at hgp
    exact .inl ⟨g, hg, hgp.2, by rw [hgp.1]⟩
  · split
    · next g hg =>
      have hv := List.find?_some hg
      exact .inl ⟨g, List.mem_of_find?_eq_some hg, hv, rfl⟩
    · next hnone =>
      refine .inr ⟨fun g hg => by simpa using List.find?_eq_none.1 hnone g hg, ?_⟩
      split <;> rfl

/-- The search of `main` for a default log: it finds none exactly when the log directory is
missing or holds no `*.log` file. Every path it returns is one of the listed files. When one of
them is a log that `calculate_packet_loss` can analyse, it returns a file whose text passes
`contains_valid_data`, and never the newest file in its place. -/
theorem findDefaultLogFile_sound (logDirExists : Bool) (logFiles : List LogFile) :
    (findDefaultLogFile logDirExists logFiles = none ↔ logDirExists = false ∨ logFiles = []) ∧
      (∀ p ∈ findDefaultLogFile logDirExists logFiles, ∃ g ∈ logFiles, g.path = p) ∧
      ((∃ f ∈ logFiles, ∃ r, calculatePacketLoss f.lines = .ok r) → logDirExists = true →
        ∃ g ∈ logFiles, findDefaultLogFile logDirExists logFiles = some g.path ∧
          containsValidData g.content = true) := by
  cases logDirExists with
  | false => exact ⟨by simp [findDefaultLogFile], by simp [findDefaultLogFile], by simp⟩
  | true =>
    rcases findDefaultLogFile_true logFiles with ⟨g, hg, hv, hfind⟩ | ⟨hnone, hfind⟩
    · refine ⟨?_, fun p hp => ?_, fun _ _ => ⟨g, hg, hfind, hv⟩⟩
      · simp only [hfind, reduceCtorEq, Bool.true_eq_false, false_or, false_iff]
        exact List.ne_nil_of_mem hg
      · rw [hfind, Option.mem_some_iff] at hp
        exact ⟨g, hg, hp⟩
    · refine ⟨?_, fun p hp => ?_, fun ⟨f, hf, r, hr⟩ _ => ?_⟩
      · cases logFiles <;> simp [hfind]
      · rw [hfind] at hp
        cases logFiles with
        | nil => cases hp
        | cons f fs =>
          rw [List.head?_cons, Option.map_some', Option.mem_some_iff] at hp
          exact ⟨_, mem_latestFile f fs, hp⟩
      · have := hnone f hf
        rw [LogFile.content, containsValidData_of_calculatePacketLoss hr] at this
        cases this

end SueSim.Loss
