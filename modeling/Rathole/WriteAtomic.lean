import Rathole.ConfigAtomic

set_option autoImplicit false

/- What `write_atomic` leaves on the disk when one of its operations fails. -/
namespace Rathole.ConfigEdit.Host

open Disk (Fault Outcome State moved)

variable {Text B : Type} (h : Host Text B) (loses : Fault → Bool)

/-- A requested removal takes the file away. -/
def Removes (remove : FilePath → Cmd B (Except Fault Unit)) : Prop :=
  ∀ q s, (∃ r, (remove q s).1 = .ok r) ∧ (remove q s).2.files = Function.update s.files q none

/-- A system where `loses` tells which failed replacements have taken the target away. -/
def losing (remove : FilePath → Cmd B (Except Fault Unit)) : Swapping B :=
  ⟨Disk.replaceLosing loses, remove⟩

/-- The temporary file has been opened by the call. -/
def Opens (s : State FilePath B) : Prop :=
  h.tmp.names = true ∧ ∀ fault, s.outcomes 0 ≠ .fails fault none

/-- No temporary file with a part of the content is left, and after an error the target is as it
was. -/
structure Tidy (s : State FilePath B) (run : Except String Unit × State FilePath B) : Prop where
  temporary : h.Opens s → h.tmp ≠ h.path → ∀ bytes, run.2.files h.tmp = some bytes → bytes = []
  target : ∀ e, run.1 = .error e → run.2.files h.path = s.files h.path

/-- Operation `n` fails. -/
def FailsAt (s : State FilePath B) (n : Nat) : Prop := ∃ fault k, s.outcomes n = .fails fault k

/-- What an error may leave in the temporary file: nothing of the content, or what was there
when the target is its own temporary file. -/
def Tolerable (s : State FilePath B) (left : Option (List B)) : Prop :=
  if h.tmp = h.path then s.files h.path = left else ∀ bytes, left = some bytes → bytes = []

/-- The swap fails whose first operation is the `n`-th; `there` says whether it finds a target. -/
def SwapFails (there : Prop) (s : State FilePath B) (n : Nat) : Prop :=
  match h.os with
  | .windows =>
    (there → ∃ fault k, s.outcomes n = .fails fault k ∧
      (fault.notFound = true → FailsAt s (n + 1))) ∧
    (¬ there → FailsAt s (n + 1))
  | .linux | .other => FailsAt s n

/-- The conditions on the operations under which a call leaves nothing behind. -/
structure Spared (content : Text) (s : State FilePath B) : Prop where
  write : ∀ fault n, s.outcomes 0 = .fails fault (some n) →
    h.Tolerable s (some ((h.encode content).take n))
  permissions : h.os = .linux → s.outcomes 0 = .done → FailsAt s 1 →
    h.Tolerable s (some (h.encode content))
  swap : s.outcomes 0 = .done → (h.os = .linux → s.outcomes 1 = .done) →
    h.SwapFails (h.tmp = h.path ∨ (s.files h.path).isSome) s (if h.os = .linux then 2 else 1) →
    h.Tolerable s none
  replaced : h.os = .windows → s.outcomes 0 = .done → ∀ fault k, s.outcomes 1 = .fails fault k →
    fault.notFound = false → loses fault = true → s.files h.path = none

variable {h : Host Text B} {loses : Fault → Bool} {s t u : State FilePath B}
  {remove : FilePath → Cmd B (Except Fault Unit)} {bytes : List B}

section Swap

/-- What remains when a swap has failed: without the temporary file, and without the target when
the system has lost it. -/
def Remains (h : Host Text B) (loses : Fault → Bool) (u : State FilePath B)
    (files : FilePath → Option (List B)) : Prop :=
  (files = Function.update u.files h.tmp none ∧
    (h.os = .windows → (u.files h.path).isSome → ∀ fault k, u.outcomes 0 = .fails fault k →
      fault.notFound = false → loses fault = false)) ∨
  (files = Function.update (Function.update u.files h.path none) h.tmp none ∧
    h.os = .windows ∧ (u.files h.path).isSome ∧ ∃ fault k, u.outcomes 0 = .fails fault k ∧
      fault.notFound = false ∧ loses fault = true)

theorem cleanUp_ok {x : Cmd B (Except Fault Unit)} (system : Swapping B) (q : FilePath)
    (ran : x u = (.ok (.ok ()), t)) : cleanUp system x q u = (.ok (.ok ()), t) :=
  Disk.bind_ok ran

theorem cleanUp_fault {x : Cmd B (Except Fault Unit)} {fault : Fault} {q : FilePath}
    {replace : FilePath → FilePath → Cmd B (Except Fault Unit)} (removes : Removes remove)
    (ran : x u = (.ok (.error fault), t)) :
    ∃ v, cleanUp ⟨replace, remove⟩ x q u = (.ok (.error fault), v) ∧
      v.files = Function.update t.files q none := by
  obtain ⟨answered, gone⟩ := removes q t
  obtain ⟨r, answered⟩ := answered
  refine ⟨(remove q t).2, ?_, gone⟩
  refine (Disk.bind_ok ran).trans ?_
  exact Disk.bind_ok (Prod.ext answered rfl)

theorem rename_done (held : u.files h.tmp = some bytes) (done : u.outcomes 0 = .done) :
    ∃ v, (Disk.rename h.tmp h.path : Cmd B _) u = (.ok (.ok ()), v) ∧
      v.files = moved u.files h.tmp h.path bytes := by
  unfold Disk.rename State.outcome
  rw [held, done]
  exact ⟨_, rfl, rfl⟩

theorem rename_fails {fault : Fault} {k : Option Nat} (failed : u.outcomes 0 = .fails fault k) :
    (Disk.rename h.tmp h.path : Cmd B _) u = (.ok (.error fault), u.skip) := by
  unfold Disk.rename State.outcome
  rw [failed]

theorem FailsAt.not_done {n : Nat} (failed : FailsAt s n) : s.outcomes n ≠ .done := by
  obtain ⟨fault, k, failed⟩ := failed
  rw [failed]
  exact Outcome.noConfusion

theorem done_or_failsAt (s : State FilePath B) (n : Nat) : s.outcomes n = .done ∨ FailsAt s n := by
  cases outcome : s.outcomes n with
  | done => exact .inl rfl
  | fails fault k => exact .inr ⟨fault, k, outcome⟩

/-- The swap on Windows, up to the removals. -/
def swapping (h : Host Text B) (loses : Fault → Bool) : Cmd B (Except Fault Unit) :=
  Disk.recover (Disk.replaceLosing loses h.tmp h.path) fun fault =>
    if fault.notFound then Disk.rename h.tmp h.path else pure (.error fault)

theorem swapping_fault {fault : Fault} {v : State FilePath B}
    (ran : (Disk.replaceLosing loses h.tmp h.path : Cmd B _) u = (.ok (.error fault), v)) :
    swapping h loses u = (if fault.notFound then Disk.rename h.tmp h.path
      else pure (.error fault) : Cmd B _) v := Disk.bind_ok ran

/-- A target that is not there is created by a rename, the second operation. -/
theorem swapping_renames {fault : Fault} (missing : fault.notFound = true)
    (ran : (Disk.replaceLosing loses h.tmp h.path : Cmd B _) u = (.ok (.error fault), u.skip))
    (held : u.files h.tmp = some bytes) :
    (u.outcomes 1 = .done ∧ ∃ v, swapping h loses u = (.ok (.ok ()), v) ∧
      v.files = moved u.files h.tmp h.path bytes) ∨
    (FailsAt u 1 ∧ ∃ fault v, swapping h loses u = (.ok (.error fault), v) ∧
      v.files = u.files) := by
  have next : swapping h loses u = (Disk.rename h.tmp h.path : Cmd B _) u.skip := by
    rw [swapping_fault ran, if_pos missing]
  have held' : u.skip.files h.tmp = some bytes := held
  rw [next]
  rcases done_or_failsAt u 1 with done | failed
  · exact .inl ⟨done, rename_done (u := u.skip) held' done⟩
  · obtain ⟨fault, k, outcome⟩ := failed
    exact .inr ⟨⟨fault, k, outcome⟩, fault, _, rename_fails (u := u.skip) outcome, rfl⟩

theorem swapping_ends (loses : Fault → Bool) (windows : h.os = .windows)
    (held : u.files h.tmp = some bytes) :
    (¬ h.SwapFails (u.files h.path).isSome u 0 ∧
      ∃ v, swapping h loses u = (.ok (.ok ()), v) ∧ v.files = moved u.files h.tmp h.path bytes) ∨
    (h.SwapFails (u.files h.path).isSome u 0 ∧
      ∃ fault v, swapping h loses u = (.ok (.error fault), v) ∧
        Remains h loses u (Function.update v.files h.tmp none)) := by
  simp only [SwapFails, windows]
  cases there : u.files h.path with
  | none =>
    have ran : (Disk.replaceLosing loses h.tmp h.path : Cmd B _) u =
        (.ok (.error .missing), u.skip) := by
      unfold Disk.replaceLosing
      rw [there]
    rcases swapping_renames rfl ran held with ⟨done, swapped⟩ | ⟨failed, fault, v, ran, same⟩
    · refine .inl ⟨?_, swapped⟩
      simp only [Option.isSome_none, Bool.false_eq_true, false_implies, not_false_eq_true,
        true_implies, true_and]
      exact fun failed => failed.not_done done
    · refine .inr ⟨by simpa using failed, fault, v, ran, .inl ⟨by rw [same], ?_⟩⟩
      simp [there]
  | some old =>
    simp only [Option.isSome_some, true_implies, not_true_eq_false, false_implies, and_true]
    cases first : u.outcomes 0 with
    | done =>
      obtain ⟨v, ran, files⟩ := rename_done held first
      have swapped : swapping h loses u = (.ok (.ok ()), v) := by
        refine Disk.bind_ok (a := Except.ok ()) ?_
        unfold Disk.replaceLosing State.outcome
        rw [there, first]
        exact ran
      exact .inl ⟨by simp, v, swapped, files⟩
    | fails fault k =>
      by_cases missing : fault.notFound = true
      · have ran : (Disk.replaceLosing loses h.tmp h.path : Cmd B _) u =
            (.ok (.error fault), u.skip) := by
          unfold Disk.replaceLosing State.outcome
          rw [there, first]
          simp [missing]
        rcases swapping_renames missing ran held with ⟨done, swapped⟩ | ⟨failed, e, v, ran, same⟩
        · refine .inl ⟨?_, swapped⟩
          rintro ⟨fault', k', same, next⟩
          cases same
          exact (next missing).not_done done
        · refine .inr ⟨⟨fault, k, rfl, fun _ => failed⟩, e, v, ran, .inl ⟨by rw [same], ?_⟩⟩
          intro _ _ fault' k' same' unequal
          cases first.symm.trans same'
          rw [missing] at unequal
          cases unequal
      · by_cases lost : loses fault = true
        · have ran : (Disk.replaceLosing loses h.tmp h.path : Cmd B _) u =
              (.ok (.error fault), u.pass [⟨Function.update u.files h.path none, none⟩]
                (Function.update u.files h.path none)) := by
            unfold Disk.replaceLosing State.outcome
            rw [there, first]
            simp [missing, lost]
          have ended := swapping_fault ran
          rw [if_neg missing] at ended
          refine .inr ⟨⟨fault, k, rfl, fun found => absurd found missing⟩, fault, _, ended, .inr ?_⟩
          exact ⟨rfl, windows, by simp [there], fault, k, first, by simpa using missing, lost⟩
        · have ran : (Disk.replaceLosing loses h.tmp h.path : Cmd B _) u =
              (.ok (.error fault), u.skip) := by
            unfold Disk.replaceLosing State.outcome
            rw [there, first]
            simp [lost]
          have ended := swapping_fault ran
          rw [if_neg missing] at ended
          refine .inr ⟨⟨fault, k, rfl, fun found => absurd found missing⟩, fault, _, ended,
            .inl ⟨rfl, ?_⟩⟩
          intro _ _ fault' k' same _
          cases first.symm.trans same
          simpa using lost

theorem Remains.again {files : FilePath → Option (List B)}
    (remains : Remains h loses u (Function.update files h.tmp none)) :
    Remains h loses u (Function.update (Function.update files h.tmp none) h.tmp none) := by
  rw [Function.update_idem]
  exact remains

/-- The swap with its removals either puts the content in its place or leaves what `Remains`
says. -/
theorem swap_ends (loses : Fault → Bool) (removes : Removes remove)
    (held : u.files h.tmp = some bytes) :
    (¬ h.SwapFails (u.files h.path).isSome u 0 ∧
      ∃ v, cleanUp (losing loses remove) (h.replaceFile (losing loses remove)) h.tmp u =
        (.ok (.ok ()), v) ∧ v.files = moved u.files h.tmp h.path bytes) ∨
    (h.SwapFails (u.files h.path).isSome u 0 ∧
      ∃ fault v, cleanUp (losing loses remove) (h.replaceFile (losing loses remove)) h.tmp u =
        (.ok (.error fault), v) ∧ Remains h loses u v.files) := by
  by_cases windows : h.os = .windows
  · have same : h.replaceFile (losing loses remove) =
        cleanUp (losing loses remove) (swapping h loses) h.tmp := if_pos windows
    rw [same]
    rcases swapping_ends loses windows held with
      ⟨succeeds, v, ran, files⟩ | ⟨fails, fault, v, ran, remains⟩
    · exact .inl ⟨succeeds, v, cleanUp_ok _ _ (cleanUp_ok _ _ ran), files⟩
    · obtain ⟨v', inner, gone⟩ := cleanUp_fault (q := h.tmp) removes ran
      obtain ⟨w, outer, gone'⟩ := cleanUp_fault (q := h.tmp) removes inner
      refine .inr ⟨fails, fault, w, outer, ?_⟩
      rw [gone', gone]
      exact remains.again
  · have same : h.replaceFile (losing loses remove) = Disk.rename h.tmp h.path := if_neg windows
    have fails_iff : h.SwapFails (u.files h.path).isSome u 0 ↔ FailsAt u 0 := by
      unfold SwapFails
      split
      · next isWindows => exact absurd isWindows windows
      · rfl
      · rfl
    rw [same, fails_iff]
    rcases done_or_failsAt u 0 with done | failed
    · obtain ⟨v, ran, files⟩ := rename_done held done
      exact .inl ⟨fun failed => failed.not_done done, v, cleanUp_ok _ _ ran, files⟩
    · obtain ⟨fault, k, outcome⟩ := failed
      obtain ⟨v, ran, gone⟩ := cleanUp_fault (q := h.tmp) removes (rename_fails (h := h) outcome)
      exact .inr ⟨⟨fault, k, outcome⟩, fault, v, ran, .inl ⟨gone, fun isWindows =>
        absurd isWindows windows⟩⟩

end Swap

section Ends

variable {content : Text}

/-- Nothing is written to a name that no file can have, or by a write that opens no file. -/
theorem writeAtomicOn_unopened (system : Swapping B) (content : Text) (unopened : ¬ h.Opens s) :
    ∃ e t, h.writeAtomicOn system content s = (.error e, t) ∧ t.files = s.files := by
  have wrote : ∃ fault t, (Disk.write FilePath.names h.tmp (h.encode content) : Cmd B _) s =
      (.ok (.error fault), t) ∧ t.files = s.files := by
    unfold Disk.write
    split
    · next named =>
      have failed : ∃ fault, s.outcomes 0 = .fails fault none := by
        by_contra none
        exact unopened ⟨named, fun fault same => none ⟨fault, same⟩⟩
      obtain ⟨fault, failed⟩ := failed
      unfold State.outcome
      rw [failed]
      exact ⟨fault, _, rfl, rfl⟩
    · exact ⟨_, _, rfl, rfl⟩
  obtain ⟨fault, t, wrote, same⟩ := wrote
  exact ⟨_, t, Disk.bind_error (Disk.orFail_error wrote), same⟩

/-- A write that stops early leaves what has arrived. -/
theorem writeAtomicOn_cut (system : Swapping B) (content : Text) (named : h.tmp.names = true)
    {fault : Fault} {n : Nat}
    (failed : s.outcomes 0 = .fails fault (some n)) :
    ∃ e t, h.writeAtomicOn system content s = (.error e, t) ∧
      t.files = Function.update s.files h.tmp (some ((h.encode content).take n)) := by
  have wrote : (Disk.write FilePath.names h.tmp (h.encode content) : Cmd B _) s =
      (.ok (.error fault), s.pass (Disk.arriving s.files h.tmp ((h.encode content).take n))
        (Function.update s.files h.tmp (some ((h.encode content).take n)))) := by
    unfold Disk.write State.outcome
    rw [if_pos named, failed]
  exact ⟨_, _, Disk.bind_error (Disk.orFail_error wrote), rfl⟩

/-- The state in which `set_permissions` is called. -/
def written (h : Host Text B) (content : Text) (s : State FilePath B) : State FilePath B :=
  s.pass (Disk.arriving s.files h.tmp (h.encode content))
    (Function.update s.files h.tmp (some (h.encode content)))

theorem files_written : (written h content s).files =
    Function.update s.files h.tmp (some (h.encode content)) := rfl

theorem write_done (content : Text) (named : h.tmp.names = true) (done : s.outcomes 0 = .done) :
    (Disk.write FilePath.names h.tmp (h.encode content) : Cmd B _) s =
      (.ok (.ok ()), written h content s) := by
  unfold Disk.write State.outcome
  rw [if_pos named, done]
  rfl

/-- The temporary file is complete, but its permissions are not set. -/
theorem writeAtomicOn_refused (system : Swapping B) (content : Text) (named : h.tmp.names = true)
    (linux : h.os = .linux) (done : s.outcomes 0 = .done) (failed : FailsAt s 1) :
    ∃ e t, h.writeAtomicOn system content s = (.error e, t) ∧
      t.files = (written h content s).files := by
  obtain ⟨fault, k, failed⟩ := failed
  have wrote := write_done content named done
  have refused : (Disk.setPermissions h.tmp : Cmd B _) (written h content s) =
      (.ok (.error fault), (written h content s).skip) := by
    have outcome : (written h content s).outcome = .fails fault k := failed
    unfold Disk.setPermissions
    rw [outcome]
  have secured : ∃ e, h.secure (written h content s) =
      (.error e, (written h content s).skip) := by
    unfold secure
    rw [if_pos linux]
    exact ⟨_, Disk.orFail_error refused⟩
  obtain ⟨e, secured⟩ := secured
  refine ⟨e, (written h content s).skip, ?_, rfl⟩
  refine (Disk.bind_ok (Disk.orFail_of_ok wrote)).trans ?_
  exact Disk.bind_error secured

/-- The temporary file is complete and its permissions are set, and what follows is the swap. -/
theorem writeAtomicOn_swaps (system : Swapping B) (content : Text) (named : h.tmp.names = true)
    (done : s.outcomes 0 = .done) (secured : h.os = .linux → s.outcomes 1 = .done) :
    ∃ u, u.files = (written h content s).files ∧
      (∀ n, u.outcomes n = s.outcomes ((if h.os = .linux then 2 else 1) + n)) ∧
      h.writeAtomicOn system content s =
        Disk.orFail (cleanUp system (h.replaceFile system) h.tmp) (fun fault =>
          s!"Failed to replace {h.path.display} with {h.tmp.display}: {fault.message}") u := by
  have wrote := write_done content named done
  by_cases linux : h.os = .linux
  · have permitted : h.secure (written h content s) = (.ok (), (written h content s).skip) := by
      have outcome : (written h content s).outcome = .done := secured linux
      unfold secure
      rw [if_pos linux]
      apply Disk.orFail_of_ok
      unfold Disk.setPermissions
      rw [outcome, files_written, Function.update_self]
    refine ⟨(written h content s).skip, rfl, ?_, ?_⟩
    · intro n
      rw [if_pos linux, Nat.add_comm]
      rfl
    · exact (Disk.bind_ok (Disk.orFail_of_ok wrote)).trans (Disk.bind_ok permitted)
  · have permitted : h.secure (written h content s) = (.ok (), written h content s) := by
      unfold secure
      rw [if_neg linux]
      rfl
    refine ⟨written h content s, rfl, ?_, ?_⟩
    · intro n
      rw [if_neg linux, Nat.add_comm]
      rfl
    · exact (Disk.bind_ok (Disk.orFail_of_ok wrote)).trans (Disk.bind_ok permitted)

/-- After an error that leaves `left` in the temporary file. -/
theorem tidy_error_iff {e : String} {left : Option (List B)} (opens : h.Opens s)
    (files : t.files = Function.update s.files h.tmp left) :
    h.Tidy s (.error e, t) ↔ h.Tolerable s left := by
  unfold Tolerable
  split
  · next same =>
    have here : t.files h.path = left := by rw [files, ← same, Function.update_self]
    constructor
    · intro tidy
      rw [← tidy.target e rfl]
      exact here
    · intro kept
      exact ⟨fun _ apart => absurd same apart, fun _ _ => here.trans kept.symm⟩
  · next apart =>
    have there : t.files h.tmp = left := by rw [files, Function.update_self]
    have kept : t.files h.path = s.files h.path := by
      rw [files, Function.update_of_ne (Ne.symm apart)]
    constructor
    · intro tidy bytes same
      exact tidy.temporary opens apart bytes (there.trans same)
    · intro empty
      exact ⟨fun _ _ bytes same => empty bytes (there.symm.trans same), fun _ _ => kept⟩

/-- After an error that has lost the target. -/
theorem tidy_lost_iff {e : String} {files : FilePath → Option (List B)}
    (lost : t.files = Function.update (Function.update files h.path none) h.tmp none) :
    h.Tidy s (.error e, t) ↔ s.files h.path = none := by
  have gone : t.files h.path = none := by
    rw [lost]
    by_cases same : h.path = h.tmp
    · rw [same, Function.update_self]
    · rw [Function.update_of_ne same, Function.update_self]
  constructor
  · intro tidy
    rw [← tidy.target e rfl]
    exact gone
  · intro missing
    refine ⟨fun _ _ bytes held => ?_, fun _ _ => gone.trans missing.symm⟩
    rw [lost, Function.update_self] at held
    cases held

theorem tidy_moved {files : FilePath → Option (List B)}
    (swapped : t.files = moved files h.tmp h.path bytes) : h.Tidy s (.ok (), t) := by
  refine ⟨fun _ apart bytes held => ?_, fun e failed => by cases failed⟩
  rw [swapped, moved, Function.update_of_ne apart, Function.update_self] at held
  cases held

theorem there_written : ((written h content s).files h.path).isSome = true ↔
    h.tmp = h.path ∨ (s.files h.path).isSome = true := by
  rw [files_written]
  by_cases same : h.tmp = h.path
  · simp [same]
  · simp [same, Function.update_of_ne (Ne.symm same)]

theorem swapFails_written (files : u.files = (written h content s).files)
    (outcomes : ∀ n, u.outcomes n = s.outcomes ((if h.os = .linux then 2 else 1) + n)) :
    h.SwapFails (u.files h.path).isSome u 0 ↔
      h.SwapFails (h.tmp = h.path ∨ (s.files h.path).isSome) s
        (if h.os = .linux then 2 else 1) := by
  unfold SwapFails FailsAt
  rw [files]
  simp only [there_written, outcomes, Nat.add_zero, Nat.zero_add]

/-- When the permissions are set or need not be, what remains to be asked is about the swap. -/
theorem spared_iff_of_secured (done : s.outcomes 0 = .done)
    (secured : h.os = .linux → s.outcomes 1 = .done) : h.Spared loses content s ↔
      (h.SwapFails (h.tmp = h.path ∨ (s.files h.path).isSome) s (if h.os = .linux then 2 else 1) →
        h.Tolerable s none) ∧
      (h.os = .windows → ∀ fault k, s.outcomes 1 = .fails fault k → fault.notFound = false →
        loses fault = true → s.files h.path = none) := by
  constructor
  · intro spared
    exact ⟨spared.swap done secured, fun windows => spared.replaced windows done⟩
  · rintro ⟨swap, replaced⟩
    refine ⟨fun fault n failed => ?_, fun linux _ failed => ?_, fun _ _ => swap,
      fun windows _ => replaced windows⟩
    · cases done.symm.trans failed
    · exact absurd (secured linux) failed.not_done

section Cases

variable (loses) (opens : h.Opens s) (removes : Removes remove)

include opens

theorem tidy_cut_iff (system : Swapping B) {fault : Fault} {n : Nat}
    (failed : s.outcomes 0 = .fails fault (some n)) :
    h.Tidy s (h.writeAtomicOn system content s) ↔ h.Spared loses content s := by
  obtain ⟨e, t, ran, files⟩ := writeAtomicOn_cut system content opens.1 failed
  rw [ran, tidy_error_iff opens files]
  constructor
  · intro tolerable
    refine ⟨fun e n' cut => ?_, fun _ done => ?_, fun done => ?_, fun _ done => ?_⟩
    · cases failed.symm.trans cut
      exact tolerable
    all_goals cases failed.symm.trans done
  · exact fun spared => spared.write fault n failed

theorem tidy_refused_iff (system : Swapping B) (linux : h.os = .linux)
    (done : s.outcomes 0 = .done) (failed : FailsAt s 1) :
    h.Tidy s (h.writeAtomicOn system content s) ↔ h.Spared loses content s := by
  obtain ⟨e, t, ran, files⟩ := writeAtomicOn_refused system content opens.1 linux done failed
  rw [ran, tidy_error_iff opens files]
  constructor
  · intro tolerable
    refine ⟨fun e n cut => ?_, fun _ _ _ => tolerable, fun _ secured => ?_, fun windows => ?_⟩
    · cases done.symm.trans cut
    · exact absurd (secured linux) failed.not_done
    · cases linux.symm.trans windows
  · exact fun spared => spared.permissions linux done failed

include removes

theorem tidy_swapped_iff (done : s.outcomes 0 = .done)
    (secured : h.os = .linux → s.outcomes 1 = .done) :
    h.Tidy s (h.writeAtomicOn (losing loses remove) content s) ↔ h.Spared loses content s := by
  obtain ⟨u, files, outcomes, ran⟩ :=
    writeAtomicOn_swaps (losing loses remove) content opens.1 done secured
  have held : u.files h.tmp = some (h.encode content) := by
    rw [files, files_written, Function.update_self]
  rw [ran, spared_iff_of_secured done secured, ← swapFails_written files outcomes]
  have first : h.os = .windows → u.outcomes 0 = s.outcomes 1 := by
    intro windows
    rw [outcomes, windows]
    rfl
  have found : s.files h.path ≠ none → (u.files h.path).isSome = true := by
    intro there
    rw [files]
    exact there_written.mpr (.inr (Option.isSome_iff_ne_none.mpr there))
  rcases swap_ends loses removes held with
    ⟨succeeds, v, ended, swapped⟩ | ⟨fails, fault, v, ended, remains⟩
  · rw [Disk.orFail_of_ok ended]
    refine iff_of_true (tidy_moved swapped) ⟨fun fails => absurd fails succeeds, ?_⟩
    intro windows fault k failed other _
    by_contra there
    apply succeeds
    simp only [SwapFails, windows]
    refine ⟨fun _ => ⟨fault, k, (first windows).trans failed, fun missing => ?_⟩, fun absent => ?_⟩
    · rw [other] at missing
      cases missing
    · exact absurd (found there) absent
  · rw [Disk.orFail_error ended]
    rcases remains with ⟨left, kept⟩ | ⟨left, windows, there, e, k, failed, other, lost⟩
    · rw [files, files_written, Function.update_idem] at left
      rw [tidy_error_iff opens left]
      refine ⟨fun tolerable => ⟨fun _ => tolerable, ?_⟩, fun spared => spared.1 fails⟩
      intro windows e k failed other lost
      by_contra there
      have safe := kept windows (found there) e k ((first windows).trans failed) other
      rw [lost] at safe
      cases safe
    · rw [tidy_lost_iff left]
      constructor
      · intro missing
        refine ⟨fun _ => ?_, fun _ _ _ _ _ _ => missing⟩
        unfold Tolerable
        split
        · exact missing
        · intro bytes none
          cases none
      · exact fun spared => spared.2 windows e k ((first windows).symm.trans failed) other lost

end Cases

/-- `write_atomic` leaves no temporary file with secrets and keeps the target exactly when its
operations fail, if they do, as `Spared` says. -/
theorem tidy_iff_spared (h : Host Text B) (loses : Fault → Bool) (content : Text)
    (s : State FilePath B) (removes : Removes remove) :
    h.Tidy s (h.writeAtomicOn (losing loses remove) content s) ↔
      (h.Opens s → h.Spared loses content s) := by
  by_cases opens : h.Opens s
  · rw [forall_prop_of_true opens]
    rcases done_or_failsAt s 0 with done | failed
    · by_cases refused : h.os = .linux ∧ FailsAt s 1
      · exact tidy_refused_iff loses opens _ refused.1 done refused.2
      · exact tidy_swapped_iff loses opens removes done fun linux =>
          (done_or_failsAt s 1).resolve_right fun failed => refused ⟨linux, failed⟩
    · obtain ⟨fault, k, failed⟩ := failed
      cases k with
      | none => exact absurd failed (opens.2 fault)
      | some n => exact tidy_cut_iff loses opens _ failed
  · obtain ⟨e, t, ran, same⟩ := writeAtomicOn_unopened (losing loses remove) content opens
    rw [ran]
    refine iff_of_true ⟨fun opens' => absurd opens' opens, fun _ _ => ?_⟩ fun opens' =>
      absurd opens' opens
    rw [same]

end Ends

def removeSurely (q : FilePath) : Cmd B (Except Fault Unit) := fun s =>
  (.ok (.ok ()), s.pass [] (Function.update s.files q none))

theorem removes_removeSurely : Removes (removeSurely : FilePath → Cmd B _) :=
  fun _ _ => ⟨⟨_, rfl⟩, rfl⟩

/-- The process 7 writes the configuration of an installed service. -/
def managed (order : HashOrder) : Host Toml.Entries (String × Toml.Item) :=
  treeHost order ⟨"/etc/rathole-x", "default.toml"⟩ 7

/-- No file is there, and operation `n` fails when something has been written. -/
def failing (n : Nat) : State FilePath (String × Toml.Item) where
  files _ := none
  past := []
  outcomes m := if m = n then .fails ⟨false, "No space left on device (os error 28)"⟩ (some 1)
    else .done

theorem tmp_managed (order : HashOrder) :
    (managed order).tmp = ⟨"/etc/rathole-x", "default.tmp7"⟩ := by
  have named : (⟨"/etc/rathole-x", "default.toml"⟩ : FilePath).withExtension s!"tmp{7}" =
      ⟨"/etc/rathole-x", "default.tmp7"⟩ := by decide
  exact named

theorem managed_named (order : HashOrder) : (managed order).tmp.names = true := by
  rw [tmp_managed]
  decide

theorem managed_apart (order : HashOrder) : (managed order).tmp ≠ (managed order).path := by
  rw [tmp_managed]
  show (_ : FilePath) ≠ ⟨"/etc/rathole-x", "default.toml"⟩
  decide

/-- The temporary file of a refused rename is removed. -/
theorem refused_rename_tidy : (managed .some).Tidy (failing 2)
    ((managed .some).writeAtomicOn (losing (fun _ => false) removeSurely) (webDocument .header)
      (failing 2)) := by
  refine (tidy_iff_spared (managed .some) (fun _ => false) (webDocument .header) (failing 2)
    removes_removeSurely).mpr fun _ => ⟨?_, ?_, ?_, ?_⟩
  · intro fault n failed
    cases failed
  · intro _ _ failed
    exact absurd rfl failed.not_done
  · intro _ _ _
    rw [Tolerable, if_neg (managed_apart .some)]
    intro bytes none
    cases none
  · intro windows
    cases windows

/-- What has arrived of the content stays in `default.tmp7` when the disk is full. -/
theorem full_disk_leaves_temporary : ¬ (managed .some).Tidy (failing 0)
    ((managed .some).writeAtomicOn (losing (fun _ => false) removeSurely) (webDocument .header)
      (failing 0)) := by
  obtain ⟨e, t, ran, files⟩ := writeAtomicOn_cut (losing (fun _ => false) removeSurely)
    (webDocument .header) (managed_named .some) (s := failing 0) rfl
  have opens : (managed .some).Opens (failing 0) := by
    refine ⟨managed_named .some, fun fault unopened => ?_⟩
    cases unopened
  rw [ran, tidy_error_iff opens files, Tolerable, if_neg (managed_apart .some)]
  intro tolerable
  cases tolerable _ rfl

end Rathole.ConfigEdit.Host
