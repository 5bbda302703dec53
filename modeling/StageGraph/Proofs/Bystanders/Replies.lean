import StageGraph.Pipeline
import StageGraph.Proofs.Dataflow.Evaluation
import StageGraph.Proofs.Resolvable.Renaming
import StageGraph.Proofs.Resolvable.Sifting

/-! What a reply comes to, and when.

A reply that starts no pipelines depends on the clock alone: a result on its way is looked at every millisecond
(`Progress.ripe`), and what the reply has come to is told from then on (`Reply.told`). Nobody has to look that often:
between two moments at which something comes, a result stays as it is (`ripe_skip`). -/
namespace StageGraph

/-- What a promise has come to after so many milliseconds. -/
def Promise.after (k : Nat) : Promise → Poll Value
  | later ms o => if ms ≤ k then some o else none
  | broken _ | held _ => none

theorem Promise.after_mono {p : Promise} {j k : Nat} (hle : j ≤ k) (h : p.after k = none) : p.after j = none := by
  cases p with
  | later ms o =>
    simp only [after] at h ⊢
    split at h
    · cases h
    · next hlate => exact if_neg fun hms => hlate (hms.trans hle)
  | _ => rfl

namespace Progress

/-- What a look leaves was not told. -/
theorem look_rest {π : Type} {view : π → Poll Value} (r : Progress π) :
    ∀ p ∈ (look (m := Id) view r).awaited, view p = none :=
  look_awaits Telling.plain r fun _ _ hnone => hnone

/-- A result on its way after so many milliseconds, with a look at it every millisecond. -/
def ripe (r : Progress Promise) : Nat → Progress Promise
  | 0 => r.look (m := Id) (Promise.after 0)
  | k + 1 => (r.ripe k).look (m := Id) (Promise.after (k + 1))

variable {r : Progress Promise} {j k : Nat}

theorem ripe_rest : ∀ p ∈ (r.ripe k).awaited, p.after k = none := by
  cases k <;> exact look_rest _

theorem ripe_sifted : (r.ripe k).Sifted := by
  cases k <;> exact look_sifted Telling.plain (fun _ => trivial) _

/-- What has come about stays. -/
theorem ripe_done {o : Outcome} (h : (r.ripe j).outcome? = some o) (hle : j ≤ k) : (r.ripe k).outcome? = some o := by
  induction hle with
  | refl => exact h
  | step hle ih =>
    rw [ripe]
    generalize r.ripe _ = before at ih ⊢
    cases before with
    | done o => exact ih
    | _ => cases ih

/-- While nothing comes, a result stays as it is. -/
theorem ripe_eq (hle : j ≤ k) (h : ∀ p ∈ (r.ripe j).awaited, p.after k = none) : r.ripe k = r.ripe j := by
  induction hle with
  | refl => rfl
  | @step k hle ih =>
    have hsame := ih fun p hp => Promise.after_mono (Nat.le_succ k) (h p hp)
    rw [ripe, hsame]
    exact look_sifted_eq _ ripe_sifted h

/-- Who looks again when something comes sees what is there then. -/
theorem ripe_skip (hlt : j < k) (h : ∀ p ∈ (r.ripe j).awaited, p.after (k - 1) = none) :
    r.ripe k = (r.ripe j).look (m := Id) (Promise.after k) := by
  obtain ⟨k, rfl⟩ := Nat.exists_eq_add_of_le' (Nat.one_le_of_lt hlt)
  rw [ripe, ripe_eq (Nat.le_of_lt_succ hlt) h]

theorem ripe_value? (hlater : r.every (fun _ => True) fun p => p.isLater = true) (k : Nat) :
    (r.ripe k).value? Promise.value? = r.value? Promise.value? ∧
      (r.ripe k).every (fun _ => True) fun p => p.isLater = true := by
  have hagrees (k : Nat) (p : Promise) (hp : p.isLater = true) : Agrees Promise.value? p (p.after k) := by
    intro o ho
    cases p with
    | later ms o' =>
      simp only [Promise.after] at ho
      split at ho
      · cases ho
        rfl
      · cases ho
    | _ => cases hp
  have hlook (k : Nat) (r : Progress Promise) (hlater : r.every (fun _ => True) fun p => p.isLater = true) :
      (r.look (m := Id) (Promise.after k)).value? Promise.value? = r.value? Promise.value? ∧
        (r.look (m := Id) (Promise.after k)).every (fun _ => True) fun p => p.isLater = true :=
    ⟨look_value? Telling.plain r fun p hp => hagrees k p (every_awaited r hlater p hp),
      look_every Telling.plain (fun _ _ _ _ => trivial) r hlater⟩
  induction k with
  | zero => exact hlook 0 r hlater
  | succ k ih =>
    obtain ⟨hvalue, hrest⟩ := hlook (k + 1) (r.ripe k) ih.2
    exact ⟨hvalue.trans ih.1, hrest⟩

end Progress

/-- What comes of the outcome of a call: a result has to conform to the declaration. -/
def Function.conclude (f : Function) : Outcome → Outcome
  | .ok v => (f.checkOutput v).mapError fun cause => ⟨cause, none⟩
  | .error fault => .error fault

theorem Function.conclude_value (f : Function) (o : Outcome) :
    (f.conclude o).toOption = o.toOption.bind fun v => (f.checkOutput v).toOption := by
  cases o with
  | ok v =>
    show ((f.checkOutput v).mapError _).toOption = (f.checkOutput v).toOption
    cases f.checkOutput v <;> rfl
  | error fault => rfl

namespace Reply

/-- What a reply has come to after so many milliseconds. One that starts pipelines is not told of here. -/
def told (f : Function) : Reply → Nat → Poll Value
  | give r, k => (r.progress.ripe k).outcome?.map f.conclude
  | fail failure, _ => some (.error failure.toFault)
  | panic message, _ => some (.error ⟨Machine.breakdown f message, none⟩)
  | rest ms next, k => if ms ≤ k then next.told f (k - ms) else none
  | hang, _ => none
  | start _ _ _ _, _ => none

variable {f : Function}

/-- What has come about stays. -/
theorem told_mono : ∀ (reply : Reply) {j k : Nat} {o : Outcome}, reply.told f j = some o → j ≤ k →
    reply.told f k = some o
  | give r, j, k, o, h, hle => by
    obtain ⟨o', ho', rfl⟩ := Option.map_eq_some_iff.mp h
    exact Option.map_eq_some_iff.mpr ⟨o', Progress.ripe_done ho' hle, rfl⟩
  | fail failure, _, _, _, h, _ => h
  | panic message, _, _, _, h, _ => h
  | rest ms next, j, k, o, h, hle => by
    unfold told at h ⊢
    split at h
    · next hms =>
      rw [if_pos (hms.trans hle)]
      exact told_mono next h (Nat.sub_le_sub_right hle ms)
    · cases h
  | hang, _, _, _, h, _ => h
  | start _ _ _ _, _, _, _, h, _ => h

/-- A plain reply comes to its value. -/
theorem told_value : ∀ (reply : Reply) {k : Nat} {o : Outcome}, reply.Plain → reply.told f k = some o →
    o.toOption = reply.value?.bind fun v => (f.checkOutput v).toOption
  | give r, k, o, hplain, h => by
    obtain ⟨o', ho', rfl⟩ := Option.map_eq_some_iff.mp h
    have hvalue := (Progress.ripe_value? (Resolvable.progress_every r hplain) k).1
    rw [Resolvable.progress_value?] at hvalue
    rw [f.conclude_value, value?, ← hvalue]
    generalize r.progress.ripe k = ripened at ho'
    cases ripened with
    | done o =>
      cases ho'
      rfl
    | _ => cases ho'
  | fail failure, _, _, _, h => by
    cases h
    rfl
  | panic message, _, _, _, h => by
    cases h
    rfl
  | rest ms next, k, o, hplain, h => by
    unfold told at h
    split at h
    · exact told_value next hplain h
    · cases h
  | hang, _, _, _, h => by cases h
  | start _ _ _ _, _, _, _, h => by cases h

end Reply
end StageGraph
