import Rdashboard.Refinement.Outcomes

/-! # The journal along the moves of its attempts

A journal is lawful when all its attempts are.  Every function of the scheduler takes a lawful
journal to one in which every attempt has made some of its moves, or is new (`Advances`); and no
attempt is left waiting for a lock that nobody holds (`Attended`). -/

namespace Rdashboard

open Relational Journal Option

variable {sha256 : Sha256} {D : Discipline}
variable {A : Attempt sha256}

namespace Journal

structure Lawful (D : Discipline) (J : Journal sha256) : Prop where
  sound : J.Sound
  attempts : ∀ a A, J.view a = some A → A.Lawful D

theorem Lawful.mono {D' : Discipline} {J : Journal sha256} (hcareful : D'.careful → D.careful)
    (horderly : D'.orderly → D.orderly) (h : J.Lawful D) : J.Lawful D' :=
  ⟨h.sound, fun a A hA => (h.attempts a A hA).mono hcareful horderly⟩

/-- Every waiting attempt waits for a lock that is held. -/
def Attended (J : Journal sha256) : Prop :=
  ∀ a A, J.view a = some A → A.row.state = .waitingForMutation →
    ∃ b B, J.view b = some B ∧ B.lock.isSome = true ∧ B.request.projectId = A.request.projectId

structure Advances (D : Discipline) (J J' : Journal sha256) : Prop where
  lawful : J'.Lawful D
  evolves : Evolves (fun _ A => A.Born) (Attempt.Step D) J.view J'.view

/-- The journal advances and no attempt is left behind. -/
structure Proceeds (D : Discipline) (J J' : Journal sha256) : Prop extends Advances D J J' where
  attended : J.Attended → J'.Attended

section Advances

variable {J J' J'' : Journal sha256} {a : Uuid} {F : Attempt sha256 → Attempt sha256}

theorem Advances.trans (h₁ : Advances D J J') (h₂ : Advances D J' J'') : Advances D J J'' :=
  ⟨h₂.lawful, h₁.evolves.trans h₂.evolves⟩

theorem Proceeds.trans (h₁ : Proceeds D J J') (h₂ : Proceeds D J' J'') : Proceeds D J J'' :=
  ⟨h₁.toAdvances.trans h₂.toAdvances, h₂.attended ∘ h₁.attended⟩

theorem Lawful.refl (h : J.Lawful D) : Proceeds D J J := ⟨⟨h, .refl _⟩, id⟩

/-- One attempt makes some of its moves. -/
theorem Advances.of_steps (hJ : J.Lawful D) (h : J.Acts J' a F)
    (hstep : ∀ A, J.view a = some A → Relation.ReflTransGen (Attempt.Step D) A (F A)) :
    Advances D J J' := by
  have hev : Evolves (fun _ A => A.Born) (Attempt.Step D) J.view J'.view := by
    rw [(h hJ.sound).2]
    exact .of_modifyAt hstep
  refine ⟨⟨(h hJ.sound).1, ?_⟩, hev⟩
  exact hev.invariant (fun _ _ hA => hA.lawful) (fun _ _ _ hA hs => hs.lawful hA) hJ.attempts

theorem Attended.of_acts (hJ : J.Attended) (hs : J.Sound) (h : J.Acts J' a F)
    (hA : J.view a = some A) (hproject : (F A).request.projectId = A.request.projectId)
    (hlock : A.lock.isSome = true → (F A).lock.isSome = true)
    (hwait : (F A).row.state = .waitingForMutation → A.row.state = .waitingForMutation) :
    J'.Attended := by
  -- The holder of a lock still holds it, whichever attempt it is.
  have hholder : ∀ b B, J.view b = some B → B.lock.isSome = true → ∃ B', J'.view b = some B' ∧
      B'.lock.isSome = true ∧ B'.request.projectId = B.request.projectId := by
    intro b B hB hk
    by_cases hb : b = a
    · subst hb
      cases hA.symm.trans hB
      exact ⟨F A, h.view hs hA, hlock hk, hproject⟩
    · exact ⟨B, by rw [h.view_ne hs hb, hB], hk, rfl⟩
  intro b B' hB' hw
  have hwaited : ∃ B, J.view b = some B ∧ B.row.state = .waitingForMutation ∧
      B.request.projectId = B'.request.projectId := by
    by_cases hb : b = a
    · subst hb
      rw [h.view hs hA] at hB'
      cases hB'
      exact ⟨A, hA, hwait hw, hproject.symm⟩
    · rw [h.view_ne hs hb] at hB'
      exact ⟨B', hB', hw, rfl⟩
  obtain ⟨B, hB, hBw, hp⟩ := hwaited
  obtain ⟨c, C, hC, hk, hCp⟩ := hJ b B hB hBw
  obtain ⟨C', hC', hk', hCp'⟩ := hholder c C hC hk
  exact ⟨c, C', hC', hk', hCp'.trans (hCp.trans hp)⟩

/-- One attempt makes a move that does not complete it. -/
theorem Proceeds.of_step (hJ : J.Lawful D) (h : J.Acts J' a F) (hA : J.view a = some A)
    (hstep : Attempt.Step D A (F A)) (hlock : A.lock.isSome = true → (F A).lock.isSome = true) :
    Proceeds D J J' := by
  refine ⟨.of_steps hJ h fun B hB => ?_, fun hatt => ?_⟩
  · cases hA.symm.trans hB
    exact .single hstep
  · have hm := (hJ.attempts a A hA).moves hstep
    refine hatt.of_acts hJ.sound h hA hm.projectId_eq hlock fun hw => ?_
    -- Only an admission makes an attempt wait.
    generalize F A = A' at hstep hw
    cases hstep with
    | commit r handoff active madeUnder fresh =>
      simp only [Attempt.commit] at hw
      split at hw <;> exact hw
    | _ => first | exact hw | cases hw

end Advances

end Journal

/-! ### Waking -/

section Waking

variable {J J' : Journal sha256} {t : Int} {u : Unit}
variable {rows : List AttemptRow}

theorem wakeLoop_ok (hJ : J.Lawful D)
    (hnd : (rows.map (·.attemptId)).Nodup) (hw : ∀ r ∈ rows, ∀ A, J.view r.attemptId = some A →
      A.row.state = .waitingForMutation)
    (hview : ∀ r ∈ rows, (J.view r.attemptId).isSome = true)
    (h : Txn.each (fun r : AttemptRow => wakeAttempt r.attemptId t) rows J = .ok (u, J')) :
    J.Advances D J' ∧ ∀ b, J'.view b =
      (J.view b).map fun A => if b ∈ rows.map (·.attemptId) then A.wake t else A := by
  induction rows generalizing J with
  | nil =>
    obtain rfl := Txn.each_nil_ok_iff.mp h
    exact ⟨hJ.refl.toAdvances, fun b => by cases J.view b <;> rfl⟩
  | cons r rows ih =>
    obtain ⟨J₁, hr, hrest⟩ := Txn.each_cons_ok_iff.mp h
    obtain ⟨hnotin, hnd⟩ := List.nodup_cons.mp hnd
    obtain ⟨A, hA⟩ := isSome_iff_exists.mp (hview r (by simp))
    have hwait := hw r (by simp) A hA
    have hacts := wakeAttempt_ok hr hA hwait
    have hadv : J.Advances D J₁ := .of_steps hJ hacts fun B hB => by
      cases hA.symm.trans hB
      exact .single (.wake t hwait)
    have hother : ∀ m ∈ rows, J₁.view m.attemptId = J.view m.attemptId := by
      intro m hm
      exact hacts.view_ne hJ.sound fun heq => hnotin (List.mem_map.mpr ⟨m, hm, heq⟩)
    obtain ⟨hadv', hviews⟩ := ih hadv.lawful hnd
      (fun m hm B hB => hw m (by simp [hm]) B (by rw [← hother m hm]; exact hB))
      (fun m hm => by rw [hother m hm]; exact hview m (by simp [hm])) hrest
    refine ⟨hadv.trans hadv', fun b => ?_⟩
    rw [hviews]
    by_cases hb : b = r.attemptId
    · subst hb
      rw [hacts.view hJ.sound hA, hA, map_some, map_some, if_neg hnotin,
        if_pos (by simp)]
    · rw [hacts.view_ne hJ.sound hb]
      simp [hb]

theorem mem_wakeable {r : AttemptRow} : r ∈ J.wakeable ↔ r ∈ J.attempts.rows ∧
    r.state = .waitingForMutation ∧ ∃ request, J.request r.requestId = some request ∧
      request.state = .active ∧ J.projectLock request.projectId = none := by
  simp [wakeable, any_eq_true]

theorem nodup_attemptIds {q : AttemptRow → Bool}
    (h : rows.Perm (J.attempts.rows.filter q)) : (rows.map (·.attemptId)).Nodup := by
  refine (h.map _).nodup_iff.mpr ?_
  rw [List.Nodup, List.pairwise_map]
  exact (J.attempts.separated.filter q).imp fun hd => attempts_by_id _ _ hd

/-- After waking, no attempt waits for a lock that nobody holds. -/
theorem wakeWaitingAttempts_ok (hJ : J.Lawful D) (h : wakeWaitingAttempts t J = .ok (u, J')) :
    J.Advances D J' ∧ J'.Attended := by
  simp only [wakeWaitingAttempts, Txn.ok_iff] at h
  obtain ⟨_, rfl, hloop⟩ := h
  have hrow : ∀ r ∈ J.wakeable, ∃ A, J.view r.attemptId = some A ∧ A.row = r := by
    intro r hr
    exact hJ.sound.view_of_attempt (Table.lookup_of_mem attempts_by_id (mem_wakeable.mp hr).1)
  have hnd : (J.wakeable.map (·.attemptId)).Nodup := nodup_attemptIds (List.perm_insertionSort _ _)
  obtain ⟨hadv, hviews⟩ := wakeLoop_ok hJ hnd (fun r hr A hA => by
      obtain ⟨B, hB, hBr⟩ := hrow r hr
      cases hA.symm.trans hB
      rw [hBr]; exact (mem_wakeable.mp hr).2.1)
    (fun r hr => by obtain ⟨A, hA, -⟩ := hrow r hr; rw [hA]; rfl) hloop
  refine ⟨hadv, fun b B' hB' hw => ?_⟩
  obtain ⟨B, hB, rfl⟩ := map_eq_some_iff.mp ((hviews b).symm.trans hB')
  by_cases hb : b ∈ J.wakeable.map (·.attemptId)
  · rw [if_pos hb] at hw
    cases hw
  · rw [if_neg hb] at hw ⊢
    -- An attempt that still waits was not woken, so somebody held its lock.
    have hactive := (hJ.attempts b B hB).standing.live (by rw [hw]; rfl)
    have hlock : J.projectLock B.request.projectId ≠ none := by
      intro hnone
      refine hb (List.mem_map.mpr ⟨B.row, mem_wakeable.mpr ⟨?_, hw, B.request, ?_, hactive, hnone⟩,
        attemptId_of_view hB⟩)
      · exact Table.mem_of_lookup (attempt_of_view hB)
      · exact request_of_view hB
    obtain ⟨k, hk⟩ := ne_none_iff_exists'.mp hlock
    obtain ⟨C, hC, hCk⟩ := lock_of_projectLock hJ.sound hk
    refine ⟨k.attemptId, _, (hviews _).trans (by rw [hC]; rfl), ?_, ?_⟩
    · split <;> exact isSome_iff_exists.mpr ⟨k, hCk⟩
    · have hproject : C.request.projectId = B.request.projectId := by
        rw [← ((hJ.attempts _ C hC).standing.owner k hCk).1]
        exact Table.key_of_lookup hk
      split <;> exact hproject

/-- Nobody is woken while no lock is released. -/
theorem wakeable_of_attended (hJ : J.Lawful D) (hatt : J.Attended) : J.wakeable = [] := by
  refine List.eq_nil_iff_forall_not_mem.mpr fun r hr => ?_
  obtain ⟨hmem, hw, request, hreq, -, hnone⟩ := mem_wakeable.mp hr
  obtain ⟨A, hA, rfl⟩ := hJ.sound.view_of_attempt (Table.lookup_of_mem attempts_by_id hmem)
  cases (request_of_view hA).symm.trans hreq
  obtain ⟨b, B, hB, hlock, hproject⟩ := hatt _ A hA hw
  obtain ⟨k, hk⟩ := isSome_iff_exists.mp hlock
  have := projectLock_of_lock hB hk
  rw [((hJ.attempts b B hB).standing.owner k hk).1, hproject, hnone] at this
  cases this

/-- An attempt completes, and those that wait for its lock wake. -/
theorem completeWorkflow_proceeds {a : Uuid} (hJ : J.Lawful D)
    (hA : J.view a = some A) (h : completeWorkflow a t J = .ok (u, J')) : J.Proceeds D J' := by
  obtain ⟨J₁, k, hrun, hk, hheld, hdone, hdebt, hacts, hwake⟩ := completeWorkflow_ok h hJ.sound hA
  have hadv : J.Advances D J₁ := .of_steps hJ hacts fun B hB => by
    cases hA.symm.trans hB
    exact .single (.complete t hrun hk hheld hdone hdebt)
  obtain ⟨hadv', hatt⟩ := wakeWaitingAttempts_ok hadv.lawful hwake
  exact ⟨hadv.trans hadv', fun _ => hatt⟩

end Waking

end Rdashboard
