import Watchpost.Engine.Call
import Watchpost.Proofs.Engine.Run

/-! Calls as runs.

What an engine does in one go for a caller is a run of single steps: a record that is submitted is
dealt out and handed over (`leads_submit`), a broadcast tells one lane after the other
(`leads_proceed`), and while the caller waits the lanes go on (`leads_of_site`). So whatever is
called, and not given up, leads from one engine to the next as a run does, and what is proved of all
runs is so for all calls. -/
namespace Watchpost.Engine

/-- A run leads from one engine to another, whatever else is to be handed over. -/
def Leads (e e' : Engine) : Prop := ∀ dealt, ∃ acts, Run ⟨e, dealt⟩ acts ⟨e', dealt⟩

section
variable {e e' : Engine}

theorem Leads.refl (e : Engine) : e.Leads e := fun _ => ⟨[], .nil⟩

theorem Leads.trans {m : Engine} (h : e.Leads m) (hmore : m.Leads e') : e.Leads e' := fun dealt => by
  obtain ⟨acts, hrun⟩ := h dealt
  obtain ⟨more, hrun'⟩ := hmore dealt
  exact ⟨acts ++ more, hrun.trans hrun'⟩

theorem leads_of_acts {acts : List Act} (h : ∀ dealt, Acts ⟨e, dealt⟩ acts ⟨e', dealt⟩) : e.Leads e' :=
  fun dealt => ⟨acts, .single (h dealt)⟩

/-- While a caller waits the lanes go on. -/
theorem leads_of_site {site : Site} (h : e.site.Leads site) : e.Leads { e with site } := fun dealt => by
  obtain ⟨ts, hrun⟩ := h
  induction hrun with
  | nil => exact ⟨[], .nil⟩
  | snoc _ hact ih =>
    obtain ⟨acts, hrun'⟩ := ih
    exact ⟨_, hrun'.snoc (.lanes hact)⟩

/-! ### Records -/

/-- A record that is submitted is dealt out and then handed over, or refused. -/
theorem leads_submit (e : Engine) (r : Record) : e.Leads (e.submit r).2 := fun dealt => by
  unfold submit
  split
  · exact ⟨[], .nil⟩
  · next h =>
    have hrunning : e.isRunning = true := by simpa using h
    have hdealt := Run.single (.deal (s := ⟨e, dealt⟩) r hrunning)
    dsimp only
    split
    · next l hl =>
      split
      · next hopen =>
        have hposted := hdealt.snoc (.post dealt [] rfl hl hopen)
        rw [List.append_nil] at hposted
        exact ⟨_, hposted⟩
      · next hclosed =>
        have hrefused := hdealt.snoc
          (.refuse dealt [] rfl hl (Bool.not_eq_true _ ▸ hclosed))
        rw [List.append_nil] at hrefused
        exact ⟨_, hrefused⟩
    · next hnone =>
      have hlt := Nat.mod_lt e.turn.toNat (List.length_pos_iff.2 (lanes_ne_nil hrunning))
      exact absurd hlt (Nat.not_lt.2 (List.getElem?_eq_none_iff.1 hnone))

/-- A record that waited enters, if the lane is still open. -/
theorem leads_proceedRecord {i : Nat} (hopen : ∀ l, e.site.lane? i = some l → l.records.isOpen = true)
    (h : e.proceedRecord i = some e') : e.Leads e' := by
  unfold proceedRecord at h
  obtain ⟨records, henter, rfl⟩ := Option.map_eq_some_iff.1 h
  obtain ⟨l, hl, henter⟩ := Option.bind_eq_some_iff.1 henter
  obtain ⟨r, hput, -⟩ := Channel.puts_of_enter? henter
  exact leads_of_acts fun dealt => .enter hl (hopen l hl) henter hput.queued

/-! ### Broadcasts -/

theorem lanes_of_told {s site : Site} {u : RuleUpdate} {next : Nat} {posted : Bool} {l : Lane}
    (hl : s.lane? next = some l) (h : fanOut s u next posted 1 = .told site) :
    ∃ f, site = s.modifyLane next f := by
  rw [fanOut_one hl] at h
  split at h
  · cases h
  · split at h
    · split at h
      · cases h
        exact ⟨_, rfl⟩
      · cases h
    · split at h
      · cases h
        exact ⟨_, rfl⟩
      · cases h

/-- To tell several lanes is to tell one of them and then the others. -/
theorem fanOut_succ {s : Site} {u : RuleUpdate} {next : Nat} {posted : Bool} {l : Lane} (left : Nat)
    (hl : s.lane? next = some l) :
    fanOut s u next posted (left + 1) =
      match fanOut s u next posted 1 with
      | .told site => fanOut site u (next + 1) false left
      | .stuck site b => .stuck site b
      | .failed site i => .failed site i := by
  rw [fanOut_one hl, fanOut, hl]
  dsimp only
  cases l.updates.isOpen with
  | false => rfl
  | true =>
    cases posted with
    | true => cases l.updates.enter? fun _ => true <;> rfl
    | false => cases l.updates.hasRoom <;> rfl

/-- An engine whose oldest broadcast got so far. -/
def reached (e : Engine) (rest : List Broadcast) : Reach → Engine
  | .told site => { e with site, broadcasts := rest }
  | .stuck site b => { e with site, broadcasts := b :: rest }
  | .failed site _ => { e with site, broadcasts := rest }

/-- What is left of a broadcast is a run. -/
theorem leads_fanOut {b : Broadcast} {rest : List Broadcast} (left : Nat)
    (hb : e.broadcasts = b :: rest) (hleft : left = e.site.lanes.length - b.next) :
    e.Leads (e.reached rest (fanOut e.site b.update b.next b.posted left)) := by
  induction left generalizing e b with
  | zero =>
    have hend := Nat.sub_eq_zero_iff_le.1 hleft.symm
    exact leads_of_acts fun dealt => .answer (s := ⟨e, dealt⟩) hb hend
  | succ left ih =>
    have hnext : b.next < e.site.lanes.length := by omega
    have hl : e.site.lane? b.next = some e.site.lanes[b.next] := List.getElem?_eq_getElem hnext
    rw [fanOut_succ left hl]
    cases hone : fanOut e.site b.update b.next b.posted 1 with
    | stuck site b' => exact leads_of_acts fun dealt => .wait (s := ⟨e, dealt⟩) hb hone
    | failed site i => exact leads_of_acts fun dealt => .fail (s := ⟨e, dealt⟩) hb hone
    | told site =>
      obtain ⟨f, rfl⟩ := lanes_of_told hl hone
      let next : Broadcast := ⟨b.update, b.next + 1, false⟩
      let told : Engine := { e with site := e.site.modifyLane b.next f, broadcasts := next :: rest }
      have htold : e.Leads told :=
        leads_of_acts fun dealt => .tell (s := ⟨e, dealt⟩) hb hnext hone
      have hlength : told.site.lanes.length = e.site.lanes.length := List.length_modify ..
      have hleft' : left = told.site.lanes.length - (b.next + 1) := by omega
      have hsame (reach : Reach) : told.reached rest reach = e.reached rest reach := by
        cases reach <;> rfl
      have hrest := ih (e := told) (b := next) rfl hleft'
      rw [hsame] at hrest
      exact htold.trans hrest

/-- To go on with a broadcast is to tell lanes as long as there is room. -/
theorem leads_proceed (e : Engine) : e.Leads e.proceed.1 := by
  unfold proceed
  split
  · exact .refl e
  · next b rest hb =>
    have hrest := leads_fanOut _ hb rfl
    cases hreach : fanOut e.site b.update b.next b.posted (e.site.lanes.length - b.next) <;>
    · rw [hreach] at hrest
      exact hrest

/-- A broadcast that is awaited goes on with the lanes, unless it is given up. -/
theorem leads_finishBroadcast (moment left : Nat)
    (h : (e.finishBroadcast moment left).1 ≠ .gaveUp) :
    e.Leads (e.finishBroadcast moment left).2 := by
  revert h
  fun_induction finishBroadcast moment e left with
  | case1 | case5 => exact fun h => absurd rfl h
  | case2 e left next hproceed | case3 e left next _ hproceed | case4 e left next hproceed =>
    intro _
    have hled := leads_proceed e
    rw [hproceed] at hled
    exact hled
  | case6 e left next hproceed b rest hb site later hwaits ih =>
    intro h
    have hled := leads_proceed e
    rw [hproceed] at hled
    exact (hled.trans (leads_of_site (Site.leads_elapseWhile ..))).trans (ih h)

theorem leads_broadcastWithin (patience : Nat) (u : RuleUpdate)
    (h : (e.broadcastWithin patience u).1 ≠ .gaveUp) : e.Leads (e.broadcastWithin patience u).2 := by
  unfold broadcastWithin at h ⊢
  cases hask : e.broadcast u with
  | ok asked =>
    rw [hask] at h
    have hasked : e.Leads asked := leads_of_acts fun dealt => .ask (s := ⟨e, dealt⟩) hask
    exact hasked.trans (leads_finishBroadcast _ _ h)
  | error _ => exact .refl e

/-! ### Stopping -/

/-- To stop is to end the input, to let the lanes go on, and to conclude. -/
theorem run_of_stop {alerts : List Alert} (h : e.stop = .ok (alerts, e')) :
    ∃ e₂ ts t, e.endInput = .ok e₂ ∧ e₂.site.Run ts t ∧ e' = conclude { e₂ with site := t } := by
  unfold stop at h
  cases hend : e.endInput with
  | error _ =>
    rw [hend] at h
    cases h
  | ok e₂ =>
    rw [hend] at h
    cases h
    obtain ⟨ts, hrun⟩ := Site.leads_runOut e₂.site
    exact ⟨e₂, ts, _, rfl, hrun, rfl⟩

end

end Watchpost.Engine
