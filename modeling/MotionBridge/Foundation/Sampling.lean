import Mathlib.Data.List.Basic

/-!
# Sampling a growing log

A writer appends stamped entries to a log, with increasing stamps. A reader now and
then looks at the last entry and keeps it, unless its stamp is that of the entry it
kept last. Between the look and the decision the log may grow.
-/
namespace Foundation

variable {A : Type}

def Increasing (stamp : A → ℕ) (log : List A) : Prop := log.Pairwise fun a b => stamp a < stamp b

theorem increasing_snoc {stamp : A → ℕ} {log : List A} {entry : A}
    (increasing : Increasing stamp log) (newer : ∀ a ∈ log, stamp a < stamp entry) :
    Increasing stamp (log ++ [entry]) := by
  refine List.pairwise_append.mpr ⟨increasing, List.pairwise_singleton _ _, ?_⟩
  intro a member b last
  rw [List.mem_singleton.mp last]
  exact newer a member

/-- A stamp names one entry of the log. -/
theorem increasing_unique {stamp : A → ℕ} {log : List A} (increasing : Increasing stamp log)
    {a b : A} (first : a ∈ log) (second : b ∈ log) (same : stamp a = stamp b) : a = b := by
  induction log with
  | nil => cases first
  | cons entry log ih =>
    obtain ⟨older, rest⟩ := List.pairwise_cons.mp increasing
    -- an entry in front has a smaller stamp than every later one
    rcases List.mem_cons.mp first with isFirst | inside
    · rcases List.mem_cons.mp second with isSecond | after
      · rw [isFirst, isSecond]
      · have below := older b after
        rw [isFirst] at same
        omega
    · rcases List.mem_cons.mp second with isSecond | after
      · have below := older a inside
        rw [isSecond] at same
        omega
      · exact ih rest inside after

/-- What the reader has kept of the log, and the sample it has yet to decide on. -/
structure Sampled (log kept : List A) (pending : Option A) : Prop where
  sublist : kept.Sublist log
  pending : ∀ sample, pending = some sample → sample ∈ log ∧
    (kept.getLast? = some sample ∨ (kept ++ [sample]).Sublist log)

theorem sampled_empty : Sampled ([] : List A) [] none := ⟨List.Sublist.refl _, nofun⟩

theorem sampled_publish {log kept : List A} {pending : Option A} (entry : A)
    (sampled : Sampled log kept pending) : Sampled (log ++ [entry]) kept pending := by
  have grows : log.Sublist (log ++ [entry]) := List.sublist_append_left log [entry]
  refine ⟨sampled.sublist.trans grows, ?_⟩
  intro sample held
  obtain ⟨member, decided⟩ := sampled.pending sample held
  exact ⟨List.mem_append_left _ member, decided.imp_right fun fits => fits.trans grows⟩

theorem sampled_drop {log kept : List A} {pending : Option A}
    (sampled : Sampled log kept pending) : Sampled log kept none :=
  ⟨sampled.sublist, nofun⟩

/-- The last entry of the log is either the one kept last, or can follow it. -/
theorem sampled_look {log kept : List A} {pending : Option A} {sample : A}
    (sampled : Sampled log kept pending) (last : log.getLast? = some sample) :
    Sampled log kept (some sample) := by
  obtain ⟨earlier, rfl⟩ := List.getLast?_eq_some_iff.mp last
  refine ⟨sampled.sublist, ?_⟩
  intro sample' held
  cases held
  refine ⟨List.mem_append_right _ (List.mem_singleton_self _), ?_⟩
  -- whether the last entry of the log has been kept decides between the two
  obtain ⟨front, back, rfl, inFront, inBack⟩ := List.sublist_append_iff.mp sampled.sublist
  rcases List.sublist_singleton.mp inBack with rfl | rfl
  · right
    rw [List.append_nil]
    exact inFront.append (List.Sublist.refl _)
  · left
    exact List.getLast?_concat

/-- A sample with the stamp kept last is the entry kept last. -/
theorem sampled_same {stamp : A → ℕ} {log kept : List A} {sample last : A}
    (increasing : Increasing stamp log) (sampled : Sampled log kept (some sample))
    (kept_last : kept.getLast? = some last) (same : stamp last = stamp sample) : last = sample := by
  have inside := sampled.sublist.subset (List.mem_of_getLast? kept_last)
  exact increasing_unique increasing inside (sampled.pending sample rfl).1 same

theorem sampled_keep {log kept : List A} {sample : A} (sampled : Sampled log kept (some sample))
    (newer : kept.getLast? ≠ some sample) : Sampled log (kept ++ [sample]) none := by
  rcases (sampled.pending sample rfl).2 with again | fits
  · exact absurd again newer
  · exact ⟨fits, nofun⟩

/-- The entries seen one after the other by somebody who always goes on in the log, never
back: some entries are skipped, others seen several times. -/
inductive Retraces : List A → List A → Prop
  | done (log : List A) : Retraces log []
  | stay {entry : A} {log seen : List A} :
      Retraces (entry :: log) seen → Retraces (entry :: log) (entry :: seen)
  | skip {entry : A} {log seen : List A} : Retraces log seen → Retraces (entry :: log) seen

namespace Retraces

variable {B : Type} {log seen : List A}

theorem grow (retraces : Retraces log seen) (more : List A) : Retraces (log ++ more) seen := by
  induction retraces with
  | done log => exact .done _
  | stay _ ih => exact .stay ih
  | skip _ ih => exact .skip ih

theorem last {entry : A} (shown : log.getLast? = some entry) : Retraces log [entry] := by
  obtain ⟨earlier, rfl⟩ := List.getLast?_eq_some_iff.mp shown
  induction earlier with
  | nil => exact .stay (.done _)
  | cons first earlier ih => exact .skip (ih (by simp))

/-- Looking at the end of the log is going on. -/
theorem look {entry : A} (retraces : Retraces log seen) (shown : log.getLast? = some entry) :
    Retraces log (seen ++ [entry]) := by
  induction retraces with
  | done log => exact last shown
  | stay _ ih => exact .stay (ih shown)
  | @skip first log seen rest ih =>
    cases log with
    | nil =>
      -- nothing can have been seen of an empty log
      cases rest
      exact last shown
    | cons second log => exact .skip (ih (by simpa using shown))

theorem sublist {fewer : List A} (retraces : Retraces log seen) (kept : fewer.Sublist seen) :
    Retraces log fewer := by
  induction retraces generalizing fewer with
  | done log =>
    rw [List.sublist_nil.mp kept]
    exact .done log
  | @stay entry log seen rest ih =>
    cases kept with
    | cons _ dropped => exact ih dropped
    | cons_cons _ kept => exact .stay (ih kept)
  | skip _ ih => exact .skip (ih kept)

theorem of_sublist (kept : seen.Sublist log) : Retraces log seen := by
  induction kept with
  | slnil => exact .done _
  | cons entry _ ih => exact .skip ih
  | cons_cons entry _ ih => exact .stay (.skip ih)

/-- What has been seen is itself a log that can be retraced. -/
theorem trans {again : List A} (retraces : Retraces log seen) (further : Retraces seen again) :
    Retraces log again := by
  induction retraces generalizing again with
  | done log =>
    cases further
    exact .done log
  | @stay entry log seen rest ih =>
    -- each further look at the same entry stays where it is
    induction again with
    | nil => exact .done _
    | cons value again staying =>
      cases further with
      | stay further => exact .stay (staying further)
      | skip further => exact ih further
  | skip _ ih => exact .skip (ih further)

theorem map (retraces : Retraces log seen) (f : A → B) : Retraces (log.map f) (seen.map f) := by
  induction retraces with
  | done log => exact .done _
  | stay _ ih => exact .stay ih
  | skip _ ih => exact .skip ih

/-- Entries that are all there are retraced as themselves. -/
theorem of_some (retraces : Retraces (log.map some) (seen.map some)) : Retraces log seen := by
  cases seen with
  | nil => exact .done log
  | cons entry seen =>
    -- no entry is missing, so the default is never used
    have values := retraces.map fun value => value.getD entry
    simpa only [List.map_map, Function.comp_def, Option.getD_some, List.map_id'] using values

end Retraces

end Foundation
