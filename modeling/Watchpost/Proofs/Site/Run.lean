import Watchpost.Proofs.Lane.Tally
import Watchpost.Site.RunOut

/-! What goes on at a site by itself.

Sides of lanes make steps, in any order (`Acts`, `Run`). All that a site does by itself is such a
run: turns, rounds, the passing of time and running out (`leads_round`, `leads_elapseWhile`,
`leads_runOut`). What happened to the messages of one lane is its story (`Run.story`). -/
namespace Watchpost.Site

/-! ### Runs -/

/-- A step at a site: a side of a lane moves, in a world that may have changed meanwhile, or nothing
happens to the lanes. What is taken is noted with the place of the lane. -/
inductive Acts (s : Site) : List (Nat × Lane.Taken) → Site → Prop where
  | replica {t : Site} {i : Nat} {l l' : Lane} {w w' : World} (hl : s.lane? i = some l)
      (hstep : l.replicaStep w = some (w', l')) (ht : t.lanes = s.lanes.set i l') :
      Acts s (l.takes?.toList.map (i, ·)) t
  | worker {t : Site} {i : Nat} {l l' : Lane} {w w' : World} (hl : s.lane? i = some l)
      (hstep : l.workerStep w = some (w', l')) (ht : t.lanes = s.lanes.set i l') : Acts s [] t
  | rest {t : Site} (ht : t.lanes = s.lanes) : Acts s [] t

/-- Steps, one after the other. -/
inductive Run (s : Site) : List (Nat × Lane.Taken) → Site → Prop where
  | nil : Run s [] s
  | snoc {ts more : List (Nat × Lane.Taken)} {m t : Site} (hrun : Run s ts m)
      (h : m.Acts more t) : Run s (ts ++ more) t

theorem Run.single {s t : Site} {ts : List (Nat × Lane.Taken)} (h : s.Acts ts t) : s.Run ts t :=
  Run.nil.snoc h

theorem Run.trans {s m t : Site} {ts more : List (Nat × Lane.Taken)} (h : s.Run ts m)
    (hmore : m.Run more t) : s.Run (ts ++ more) t := by
  induction hmore with
  | nil =>
    rw [List.append_nil]
    exact h
  | snoc _ hact ih =>
    rw [← List.append_assoc]
    exact ih.snoc hact

/-! ### Lanes -/

/-- What the replica of a lane took. -/
def takenAt (i : Nat) (ts : List (Nat × Lane.Taken)) : List Lane.Taken :=
  ts.filterMap fun t => if t.1 = i then some t.2 else none

theorem takenAt_append (i : Nat) (ts more : List (Nat × Lane.Taken)) :
    takenAt i (ts ++ more) = takenAt i ts ++ takenAt i more := List.filterMap_append

theorem takenAt_here (i : Nat) (t : Option Lane.Taken) :
    takenAt i (t.toList.map (i, ·)) = t.toList := by
  cases t <;> simp [takenAt]

theorem takenAt_elsewhere {i j : Nat} (h : i ≠ j) (t : Option Lane.Taken) :
    takenAt j (t.toList.map (i, ·)) = [] := by
  cases t <;> simp [takenAt, h]

theorem lane?_of_set {s t : Site} {i j : Nat} {l' m : Lane} (ht : t.lanes = s.lanes.set i l')
    (h : t.lane? j = some m) : (j = i ∧ m = l') ∨ (j ≠ i ∧ s.lane? j = some m) := by
  unfold lane? at h ⊢
  rw [ht, List.getElem?_set] at h
  by_cases hij : i = j
  · rw [if_pos hij] at h
    split at h
    · cases h
      exact .inl ⟨hij.symm, rfl⟩
    · cases h
  · rw [if_neg hij] at h
    exact .inr ⟨Ne.symm hij, h⟩

/-- Each lane does what is its part in a step. -/
theorem Acts.does {s t : Site} {ts : List (Nat × Lane.Taken)} (h : s.Acts ts t) {j : Nat} {m : Lane}
    (hm : t.lane? j = some m) :
    ∃ l, s.lane? j = some l ∧ l.Does ((takenAt j ts).map .took) m := by
  cases h with
  | @replica _ i l l' w w' hl hstep ht =>
    rcases lane?_of_set ht hm with ⟨rfl, rfl⟩ | ⟨hne, hm⟩
    · rw [takenAt_here]
      exact ⟨l, hl, .replica hstep⟩
    · rw [takenAt_elsewhere (Ne.symm hne)]
      exact ⟨m, hm, .nothing⟩
  | worker hl hstep ht =>
    rcases lane?_of_set ht hm with ⟨rfl, rfl⟩ | ⟨-, hm⟩
    · exact ⟨_, hl, .worker hstep⟩
    · exact ⟨m, hm, .nothing⟩
  | rest ht =>
    unfold lane? at hm ⊢
    exact ⟨m, ht ▸ hm, .nothing⟩

theorem Acts.length {s t : Site} {ts : List (Nat × Lane.Taken)} (h : s.Acts ts t) :
    t.lanes.length = s.lanes.length := by
  cases h with
  | replica _ _ ht | worker _ _ ht => rw [ht, List.length_set]
  | rest ht => rw [ht]

theorem Run.length {s t : Site} {ts : List (Nat × Lane.Taken)} (h : s.Run ts t) :
    t.lanes.length = s.lanes.length := by
  induction h with
  | nil => rfl
  | snoc _ hact ih => exact hact.length.trans ih

/-- The story of a lane goes on with what its replica takes. -/
theorem Run.story {s t : Site} {ts : List (Nat × Lane.Taken)} (h : s.Run ts t) {i : Nat} {m : Lane}
    (hm : t.lane? i = some m) : ∃ l, s.lane? i = some l ∧
      ∀ start es, Lane.Story start es l → Lane.Story start (es ++ (takenAt i ts).map .took) m := by
  induction h generalizing m with
  | nil => exact ⟨m, hm, fun start es hstory => (List.append_nil es).symm ▸ hstory⟩
  | snoc _ hact ih =>
    obtain ⟨l', hl', hdoes⟩ := hact.does hm
    obtain ⟨l, hl, hstory⟩ := ih hl'
    refine ⟨l, hl, fun start es hes => ?_⟩
    rw [takenAt_append, List.map_append, ← List.append_assoc]
    exact (hstory start es hes).snoc hdoes

/-- Who is not broken was not broken before. -/
theorem Run.isBroken {s t : Site} {ts : List (Nat × Lane.Taken)} (h : s.Run ts t) {i : Nat} {m : Lane}
    (hm : t.lane? i = some m) (hwhole : m.isBroken = false) :
    ∃ l, s.lane? i = some l ∧ l.isBroken = false := by
  induction h generalizing m with
  | nil => exact ⟨m, hm, hwhole⟩
  | snoc _ hact ih =>
    obtain ⟨l, hl, hdoes⟩ := hact.does hm
    exact ih hl (Lane.isBroken_of_does hdoes hwhole)

/-! ### What a site does by itself -/

/-- Lanes that make steps lead from one site to another. -/
def Leads (s t : Site) : Prop := ∃ ts, s.Run ts t

theorem Leads.refl (s : Site) : s.Leads s := ⟨[], .nil⟩

theorem Leads.trans {s m t : Site} (h : s.Leads m) (hmore : m.Leads t) : s.Leads t := by
  obtain ⟨ts, hrun⟩ := h
  obtain ⟨more, hrun'⟩ := hmore
  exact ⟨ts ++ more, hrun.trans hrun'⟩

theorem leads_of_lanes {s t : Site} (h : t.lanes = s.lanes) : s.Leads t := ⟨[], .single (.rest h)⟩

theorem lane?_set {s : Site} {i : Nat} {l : Lane} (h : s.lane? i = some l) (l' : Lane) :
    ({ s with lanes := s.lanes.set i l' } : Site).lane? i = some l' :=
  List.getElem?_set_self (List.getElem?_eq_some_iff.1 h).1

section
variable {s t : Site} {i : Nat} {l l' : Lane} {w w' : World}

theorem leads_of_replicaStep (hl : s.lane? i = some l) (hstep : l.replicaStep w = some (w', l'))
    (ht : t.lanes = s.lanes.set i l') : s.Leads t := ⟨_, .single (.replica hl hstep ht)⟩

/-- A replica that finds nothing looks for the next kind. -/
theorem leads_of_lookOn (hl : s.lane? i = some l) (hidle : l.isIdle = true) (hloops : l.loops = true)
    (hnone : l.find? w = none) : s.Leads { s with lanes := s.lanes.set i l.lookOn } :=
  leads_of_replicaStep hl ((l.replicaStep_of_idle w hidle hloops).trans (by rw [Lane.look, hnone]; rfl))
    rfl

/-- The looks of a pass are steps of their own at the site. -/
theorem leads_of_pass (hl : s.lane? i = some l) (hidle : l.isIdle = true) (hloops : l.loops = true)
    (hpass : l.pass w = some (w', l')) (ht : t.lanes = s.lanes.set i l') : s.Leads t := by
  have hfound {s : Site} {m : Lane} (hm : s.lane? i = some m) (hmidle : m.isIdle = true)
      (hmloops : m.loops = true) (hfind : m.find? w = some (w', l'))
      (htm : t.lanes = s.lanes.set i l') : s.Leads t :=
    leads_of_replicaStep hm
      ((m.replicaStep_of_idle w hmidle hmloops).trans (by rw [Lane.look, hfind]; rfl)) htm
  have hset (m : Lane) (ms : List Lane) (hms : t.lanes = ms.set i l') :
      t.lanes = (ms.set i m).set i l' := by
    rw [hms, List.set_set]
  unfold Lane.pass at hpass
  split at hpass
  · next found hfind =>
    cases hpass
    exact hfound hl hidle hloops hfind ht
  · next hnone =>
    have hl₁ := lane?_set hl l.lookOn
    refine (leads_of_lookOn hl hidle hloops hnone).trans ?_
    split at hpass
    · next found hfind =>
      cases hpass
      exact hfound hl₁ hidle hloops hfind (hset _ _ ht)
    · next hnone =>
      refine (leads_of_lookOn hl₁ hidle hloops hnone).trans ?_
      exact hfound (lane?_set hl₁ l.lookOn.lookOn) hidle hloops hpass (hset _ _ (hset _ _ ht))

theorem leads_of_step (side : Lane.Side) (hl : s.lane? i = some l)
    (hstep : l.step side w = some (w', l')) (ht : t.lanes = s.lanes.set i l') : s.Leads t := by
  cases side with
  | replica =>
    cases hidle : l.isIdle with
    | true =>
      unfold Lane.step Lane.replicaPass at hstep
      rw [hidle, if_pos rfl] at hstep
      dsimp only at hstep
      split at hstep
      · next hloops => exact leads_of_pass hl hidle hloops hstep ht
      · cases hstep
    | false =>
      have hstep' : l.replicaPass w = some (w', l') := hstep
      rw [Lane.replicaPass_of_busy hidle] at hstep'
      exact leads_of_replicaStep hl hstep' ht
  | worker => exact ⟨_, .single (.worker hl hstep ht)⟩

end

/-- The steps of a turn are steps at the site. -/
theorem leads_of_turn {l : Lane} (side : Lane.Side) (units : Nat) (w : World) {s t : Site} {i : Nat}
    (hl : s.lane? i = some l) (ht : t.lanes = s.lanes.set i (l.turn side units w).2.2) :
    s.Leads t := by
  fun_induction Lane.turn l side units w generalizing s with
  | case1 l units w _ | case3 l units w _ _ =>
    have hsame : s.lanes.set i l = s.lanes := by
      obtain ⟨hlt, rfl⟩ := List.getElem?_eq_some_iff.1 hl
      exact List.set_getElem_self hlt
    exact leads_of_lanes (ht.trans hsame)
  | case2 l units w _ w' l' hstep ih =>
    refine .trans (leads_of_step (t := { s with lanes := s.lanes.set i l' }) side hl hstep rfl) ?_
    refine ih (lane?_set hl l') ?_
    show t.lanes = (s.lanes.set i l').set i _
    rw [ht, List.set_set]

theorem leads_turn (s : Site) (p : Party) (units : Nat) : s.Leads (s.turn p units) := by
  unfold turn
  split
  · next l hl =>
    split
    · exact leads_of_turn p.side units s.world hl rfl
    · exact .refl s
  · exact .refl s

theorem leads_next? {s t : Site} (h : s.next? = some t) : s.Leads t := by
  unfold next? at h
  split at h
  · cases h
  · next ready _ =>
    cases h
    exact (leads_of_lanes (s := s) (t := { s with ready }) rfl).trans (leads_turn { s with ready } ..)

theorem leads_turns (n : Nat) (s : Site) : s.Leads (turns n s) := by
  induction n generalizing s with
  | zero => exact .refl s
  | succ n ih =>
    unfold turns
    split
    · next t ht => exact (leads_next? ht).trans (ih t)
    · exact .refl s

theorem leads_round (s : Site) : s.Leads s.round := by
  refine (leads_of_lanes s.putCallerFirst_lanes).trans ?_
  exact (leads_turns roundTurns s.putCallerFirst).trans (leads_of_lanes rfl)

theorem leads_settleWhile (waits : Site → Bool) (s : Site) : s.Leads (s.settleWhile waits) := by
  fun_induction settleWhile waits s with
  | case1 s h ih => exact (leads_round s).trans ih
  | case2 s h => exact .refl s

theorem leads_elapseWhile (waits : Site → Bool) (s : Site) (moment : Nat) :
    s.Leads (s.elapseWhile waits moment) := by
  have hsettled (s : Site) : s.Leads (s.wake.settleWhile waits) :=
    (leads_of_lanes (s := s) (t := s.wake) rfl).trans (leads_settleWhile waits s.wake)
  fun_induction elapseWhile waits s moment with
  | case1 s settled hwaits due hdue hlt ih =>
    exact ((hsettled s).trans (leads_of_lanes (t := settled.setNow due) rfl)).trans ih
  | case2 s | case3 s => exact (hsettled s).trans (leads_of_lanes rfl)
  | case4 s => exact hsettled s

theorem leads_takeAlerts (s : Site) : s.Leads s.takeAlerts.2 := by
  unfold takeAlerts
  split
  · exact .refl s
  · exact leads_of_lanes rfl

theorem leads_skip? {s t : Site} (h : s.skip? = some t) : s.Leads t := by
  unfold skip? at h
  split at h
  · dsimp only at h
    split at h
    · cases h
    · cases h
      exact leads_of_lanes rfl
  · cases h

theorem leads_runOut (s : Site) : s.Leads s.runOut.2 := by
  fun_induction runOut s with
  | case1 s => exact leads_takeAlerts s
  | case2 s _ _ more last hrest ih =>
    rw [hrest] at ih
    exact (leads_takeAlerts s).trans ih
  | case3 s _ _ _ ih => exact (leads_round s).trans ih
  | case4 s _ _ _ next hskip ih => exact ((leads_skip? hskip).trans (leads_round next)).trans ih
  | case5 s => exact .refl s

end Watchpost.Site
