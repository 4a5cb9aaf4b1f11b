import Watchpost.Engine.Basic
import Watchpost.Proofs.Site.Run

/-! Runs of an engine.

Callers ask for broadcasts and submit records, as many at a time as they like, while the lanes go
on: a run is any interleaving of their steps (`Acts`, `Run`). A broadcast tells one lane at a time
and waits where there is no room; a record has its turn first and is handed over some time
later. -/
namespace Watchpost

namespace Site

theorem lanes_modifyLane {s : Site} {i : Nat} {l : Lane} (h : s.lane? i = some l) (f : Lane → Lane) :
    (s.modifyLane i f).lanes = s.lanes.set i (f l) := by
  have hget : s.lanes[i]? = some l := h
  show s.lanes.modify i f = _
  rw [List.modify_eq_set_getElem?, hget]
  rfl

end Site

namespace Engine

/-! ### Runs -/

/-- What happens at an engine that runs. -/
inductive Act where
  /-- An update was put into the channel of a lane. -/
  | told (i : Nat) (u : RuleUpdate)
  /-- A broadcast is over: all lanes were told. -/
  | answered (u : RuleUpdate)
  /-- A broadcast failed at a lane that takes no more updates. -/
  | failed (u : RuleUpdate) (i : Nat)
  /-- A record was dealt out to a lane. -/
  | dealt (i : Nat) (r : Record)
  /-- A record was put into the channel of a lane, and its submission is over. -/
  | given (i : Nat) (r : Record)
  /-- A submission failed since the lane takes no more records. -/
  | refused (i : Nat) (r : Record)
  | took (i : Nat) (t : Lane.Taken)

/-- An engine while it is called. -/
structure Scene where
  engine : Engine
  /-- The records that were dealt out and not handed over yet, with their lanes. -/
  dealt : List (Nat × Record) := []

/-- A step of a caller or of a lane. -/
inductive Acts (s : Scene) : List Act → Scene → Prop where
  | ask {u : RuleUpdate} {e : Engine} (h : s.engine.broadcast u = .ok e) :
      Acts s [] { s with engine := e }
  /-- The oldest broadcast tells its next lane. -/
  | tell {b : Broadcast} {rest : List Broadcast} {site : Site}
      (hb : s.engine.broadcasts = b :: rest) (hnext : b.next < s.engine.site.lanes.length)
      (h : fanOut s.engine.site b.update b.next b.posted 1 = .told site) :
      Acts s [.told b.next b.update] { s with engine := { s.engine with
        site, broadcasts := ⟨b.update, b.next + 1, false⟩ :: rest } }
  | wait {b b' : Broadcast} {rest : List Broadcast} {site : Site}
      (hb : s.engine.broadcasts = b :: rest)
      (h : fanOut s.engine.site b.update b.next b.posted 1 = .stuck site b') :
      Acts s [] { s with engine := { s.engine with site, broadcasts := b' :: rest } }
  | fail {b : Broadcast} {rest : List Broadcast} {site : Site} {i : Nat}
      (hb : s.engine.broadcasts = b :: rest)
      (h : fanOut s.engine.site b.update b.next b.posted 1 = .failed site i) :
      Acts s [.failed b.update i] { s with engine := { s.engine with site, broadcasts := rest } }
  | answer {b : Broadcast} {rest : List Broadcast} (hb : s.engine.broadcasts = b :: rest)
      (hend : s.engine.site.lanes.length ≤ b.next) :
      Acts s [.answered b.update] { s with engine := { s.engine with broadcasts := rest } }
  /-- A record has its turn. -/
  | deal (r : Record) (hrunning : s.engine.isRunning = true) :
      Acts s [.dealt (s.engine.turn.toNat % s.engine.site.lanes.length) r]
        { engine := { s.engine with turn := s.engine.turn + 1 }
          dealt := s.dealt ++ [(s.engine.turn.toNat % s.engine.site.lanes.length, r)] }
  /-- A record is handed over; it may wait for room. -/
  | post {i : Nat} {r : Record} {l : Lane} (before after : List (Nat × Record))
      (hdealt : s.dealt = before ++ (i, r) :: after) (hl : s.engine.site.lane? i = some l)
      (hopen : l.records.isOpen = true) :
      Acts s (if l.records.hasRoom then [.given i r] else [])
        { engine := { s.engine with site := s.engine.site.modifyLane i fun l =>
            { l with records := l.records.send r } }
          dealt := before ++ after }
  | refuse {i : Nat} {r : Record} {l : Lane} (before after : List (Nat × Record))
      (hdealt : s.dealt = before ++ (i, r) :: after) (hl : s.engine.site.lane? i = some l)
      (hopen : l.records.isOpen = false) :
      Acts s [.refused i r] { s with dealt := before ++ after }
  /-- A record that waited finds its place. -/
  | enter {i : Nat} {r : Record} {l : Lane} {p : Record → Bool} {records : Channel Record}
      (hl : s.engine.site.lane? i = some l) (hopen : l.records.isOpen = true)
      (henter : l.records.enter? p = some records) (hr : records.queued = l.records.queued ++ [r]) :
      Acts s [.given i r] { s with engine := { s.engine with
        site := s.engine.site.modifyLane i fun l => { l with records } } }
  | lanes {ts : List (Nat × Lane.Taken)} {site : Site} (h : s.engine.site.Acts ts site) :
      Acts s (ts.map fun t => .took t.1 t.2) { s with engine := { s.engine with site } }

/-- Steps, one after the other. -/
inductive Run (s : Scene) : List Act → Scene → Prop where
  | nil : Run s [] s
  | snoc {acts more : List Act} {m t : Scene} (hrun : Run s acts m) (h : Acts m more t) :
      Run s (acts ++ more) t

theorem Run.trans {s m t : Scene} {acts more : List Act} (h : Run s acts m) (hmore : Run m more t) :
    Run s (acts ++ more) t := by
  induction hmore with
  | nil =>
    rw [List.append_nil]
    exact h
  | snoc _ hact ih =>
    rw [← List.append_assoc]
    exact ih.snoc hact

theorem Run.single {s t : Scene} {acts : List Act} (h : Acts s acts t) : Run s acts t :=
  Run.nil.snoc h

theorem lanes_ne_nil {e : Engine} (h : e.isRunning = true) : e.site.lanes ≠ [] := by
  intro hnone
  unfold isRunning at h
  rw [hnone, List.isEmpty_nil, Bool.not_true, Bool.and_false] at h
  cases h

/-! ### What happened at a lane -/

def Act.entry? (i : Nat) : Act → Option Lane.Entry
  | .told j u => if j = i then some (.put (.update u)) else none
  | .given j r => if j = i then some (.put (.record r)) else none
  | .took j t => if j = i then some (.took t) else none
  | .answered _ | .failed _ _ | .dealt _ _ | .refused _ _ => none

/-- The part of a lane in what happened. -/
def entriesAt (i : Nat) (acts : List Act) : List Lane.Entry := acts.filterMap (Act.entry? i)

theorem entriesAt_append (i : Nat) (acts more : List Act) :
    entriesAt i (acts ++ more) = entriesAt i acts ++ entriesAt i more := List.filterMap_append

theorem entriesAt_told (i j : Nat) (u : RuleUpdate) :
    entriesAt j [.told i u] = if i = j then Lane.tells [u] else [] := by
  unfold entriesAt Act.entry?
  by_cases h : i = j <;> simp [h, Lane.tells]

theorem entriesAt_given (i j : Nat) (r : Record) :
    entriesAt j [.given i r] = if i = j then Lane.gives [r] else [] := by
  unfold entriesAt Act.entry?
  by_cases h : i = j <;> simp [h, Lane.gives]

theorem entriesAt_took (i : Nat) (ts : List (Nat × Lane.Taken)) :
    entriesAt i (ts.map fun t => .took t.1 t.2) = (Site.takenAt i ts).map .took := by
  unfold entriesAt Site.takenAt
  rw [List.filterMap_map, List.map_filterMap]
  congr 1
  funext t
  show (if t.1 = i then _ else _) = _
  split <;> simp_all

/-- The updates that a lane was told of. -/
def toldTo (i : Nat) (acts : List Act) : List RuleUpdate := Lane.told (entriesAt i acts)

/-- The records that a lane was given. -/
def givenTo (i : Nat) (acts : List Act) : List Record := Lane.given (entriesAt i acts)

section
variable {s site : Site} {u : RuleUpdate} {next i : Nat} {posted : Bool} {l : Lane} {b : Broadcast}

theorem fanOut_one (hl : s.lane? next = some l) :
    fanOut s u next posted 1 =
      if !l.updates.isOpen then .failed s next
      else if posted then
        match l.updates.enter? fun _ => true with
        | some updates => .told (s.modifyLane next fun l => { l with updates })
        | none => .stuck s ⟨u, next, true⟩
      else
        if l.updates.hasRoom then
          .told (s.modifyLane next fun l => { l with updates := l.updates.send u })
        else .stuck (s.modifyLane next fun l => { l with updates := l.updates.send u })
          ⟨u, next, true⟩ := by
  unfold fanOut
  rw [hl]
  rfl

/-- Of a broadcast, only the lane that it waits at knows. -/
def postedAt (i : Nat) : List Broadcast → List RuleUpdate
  | [] => []
  | b :: _ => if b.posted ∧ b.next = i then [b.update] else []

/-- A lane that is told has the update in its channel, and nobody waits there any more. -/
theorem told_of_fanOut (hl : s.lane? next = some l)
    (hwaiting : l.updates.isOpen = true → l.updates.waiting = if posted then [u] else [])
    (h : fanOut s u next posted 1 = .told site) :
    l.updates.isOpen = true ∧ ∃ updates, l.updates.Puts [u] updates ∧ updates.waiting = [] ∧
      site.lanes = s.lanes.set next { l with updates } := by
  rw [fanOut_one hl] at h
  cases hopen : l.updates.isOpen with
  | false =>
    rw [hopen] at h
    cases h
  | true =>
    specialize hwaiting hopen
    rw [hopen] at h
    refine ⟨rfl, ?_⟩
    cases posted with
    | true =>
      cases henter : l.updates.enter? fun _ => true with
      | none =>
        rw [henter] at h
        cases h
      | some updates =>
        rw [henter] at h
        cases h
        obtain ⟨x, hput, hperm⟩ := Channel.puts_of_enter? henter
        rw [hwaiting] at hperm
        obtain ⟨rfl, hnone⟩ := List.cons.inj (List.perm_singleton.1 hperm.symm)
        exact ⟨updates, hput, hnone, Site.lanes_modifyLane hl _⟩
    | false =>
      obtain ⟨hput, hsent⟩ := l.updates.puts_send u
      cases hroom : l.updates.hasRoom with
      | false =>
        rw [hroom] at h
        cases h
      | true =>
        rw [hroom] at h hput hsent
        cases h
        rw [hwaiting] at hsent
        exact ⟨l.updates.send u, hput, hsent, Site.lanes_modifyLane hl _⟩

/-- A broadcast that does not get on waits at its next lane. -/
theorem stuck_of_fanOut
    (hwaiting : ∀ l, s.lane? next = some l → l.updates.isOpen = true →
      l.updates.waiting = if posted then [u] else [])
    (h : fanOut s u next posted 1 = .stuck site b) :
    b = ⟨u, next, true⟩ ∧ ∃ l updates, s.lane? next = some l ∧ l.updates.isOpen = true ∧
      l.updates.Puts [] updates ∧ updates.waiting = [u] ∧
      site.lanes = s.lanes.set next { l with updates } := by
  cases hl : s.lane? next with
  | none =>
    unfold fanOut at h
    rw [hl] at h
    cases h
  | some l =>
    rw [fanOut_one hl] at h
    cases hopen : l.updates.isOpen with
    | false =>
      rw [hopen] at h
      cases h
    | true =>
      have hwaiting := hwaiting l hl hopen
      rw [hopen] at h
      cases posted with
      | true =>
        cases henter : l.updates.enter? fun _ => true with
        | none =>
          rw [henter] at h
          cases h
          refine ⟨rfl, l, l.updates, rfl, hopen, Channel.puts_of_same rfl rfl rfl, hwaiting, ?_⟩
          obtain ⟨hlt, rfl⟩ := List.getElem?_eq_some_iff.1 hl
          exact (List.set_getElem_self hlt).symm
        | some updates =>
          rw [henter] at h
          cases h
      | false =>
        cases hroom : l.updates.hasRoom with
        | true =>
          rw [hroom] at h
          cases h
        | false =>
          obtain ⟨hput, hsent⟩ := l.updates.puts_send u
          rw [hroom] at h hput hsent
          cases h
          rw [hwaiting] at hsent
          exact ⟨rfl, l, l.updates.send u, rfl, hopen, hput, hsent, Site.lanes_modifyLane hl _⟩

/-- A broadcast fails at a lane that is closed, and leaves the lanes as they are. -/
theorem failed_of_fanOut (h : fanOut s u next posted 1 = .failed site i) :
    i = next ∧ site = s ∧ ∃ l, s.lane? next = some l ∧ l.updates.isOpen = false := by
  cases hl : s.lane? next with
  | none =>
    unfold fanOut at h
    rw [hl] at h
    cases h
  | some l =>
    rw [fanOut_one hl] at h
    cases hopen : l.updates.isOpen with
    | false =>
      rw [hopen] at h
      cases h
      exact ⟨rfl, rfl, l, rfl, hopen⟩
    | true =>
      rw [hopen] at h
      cases posted with
      | true => cases henter : l.updates.enter? fun _ => true <;> rw [henter] at h <;> cases h
      | false => cases hroom : l.updates.hasRoom <;> rw [hroom] at h <;> cases h

end

/-- To ask for a broadcast puts it behind the others. -/
theorem eq_of_broadcast {e e' : Engine} {u : RuleUpdate} (h : e.broadcast u = .ok e') :
    e' = { e with broadcasts := e.broadcasts ++ [{ update := u }] } := by
  unfold broadcast at h
  split at h
  · cases h
    rfl
  · cases h

/-! ### Who waits with an update -/

/-- Only the oldest broadcast has told lanes, and it waits at the next one or nowhere. -/
structure Waits (e : Engine) : Prop where
  fresh : ∀ b ∈ e.broadcasts.tail, b.next = 0 ∧ b.posted = false
  waiting : ∀ i l, e.site.lane? i = some l → l.updates.isOpen = true →
    l.updates.waiting = postedAt i e.broadcasts

section
variable {e : Engine} {b : Broadcast} {rest : List Broadcast}

theorem postedAt_of_fresh {bs : List Broadcast} (h : ∀ b ∈ bs, b.next = 0 ∧ b.posted = false)
    (i : Nat) : postedAt i bs = [] := by
  cases bs with
  | nil => rfl
  | cons b rest =>
    refine if_neg fun hb => ?_
    rw [(h b (List.mem_cons_self ..)).2] at hb
    cases hb.1

theorem postedAt_elsewhere {i : Nat} (h : b.next ≠ i) (rest : List Broadcast) :
    postedAt i (b :: rest) = [] := if_neg fun hb => h hb.2

theorem Waits.here (h : e.Waits) (hb : e.broadcasts = b :: rest) {l : Lane}
    (hl : e.site.lane? b.next = some l) (hopen : l.updates.isOpen = true) :
    l.updates.waiting = if b.posted then [b.update] else [] := by
  rw [h.waiting b.next l hl hopen, hb]
  simp [postedAt]

theorem Waits.others (h : e.Waits) (hb : e.broadcasts = b :: rest) :
    ∀ c ∈ rest, c.next = 0 ∧ c.posted = false := by
  have hfresh := h.fresh
  rw [hb] at hfresh
  exact hfresh

/-- Only the lane that a broadcast is at has changed. -/
theorem Waits.of_set (h : e.Waits) (hb : e.broadcasts = b :: rest) {b' : Broadcast} {site : Site}
    {l : Lane} {updates : Channel RuleUpdate}
    (hlanes : site.lanes = e.site.lanes.set b.next { l with updates })
    (hwaiting : updates.waiting = postedAt b.next (b' :: rest))
    (helse : ∀ i, i ≠ b.next → postedAt i (b' :: rest) = []) :
    Waits { e with site, broadcasts := b' :: rest } where
  fresh := h.others hb
  waiting i m hm hopen := by
    rcases Site.lane?_of_set hlanes hm with ⟨rfl, rfl⟩ | ⟨hne, hm⟩
    · exact hwaiting
    · rw [h.waiting i m hm hopen, hb, postedAt_elsewhere (Ne.symm hne), helse i hne]

/-- A broadcast that is over waits nowhere. -/
theorem Waits.of_over (h : e.Waits) (hb : e.broadcasts = b :: rest)
    (hnext : ∀ l, e.site.lane? b.next = some l → l.updates.isOpen = false) :
    Waits { e with broadcasts := rest } where
  fresh c hc := h.others hb c (List.mem_of_mem_tail hc)
  waiting i l hl hopen := by
    rw [postedAt_of_fresh (h.others hb), h.waiting i l hl hopen, hb]
    refine postedAt_elsewhere (fun heq => ?_) rest
    subst heq
    rw [hnext l hl] at hopen
    cases hopen

/-- The lanes have gone on, and who waited for room for an update still waits. -/
theorem Waits.of_lanes (h : e.Waits) {f : Engine} (hbroadcasts : f.broadcasts = e.broadcasts)
    (hlanes : ∀ i m, f.site.lane? i = some m → m.updates.isOpen = true → ∃ l,
      e.site.lane? i = some l ∧ l.updates.isOpen = true ∧ m.updates.waiting = l.updates.waiting) :
    f.Waits where
  fresh := by
    rw [hbroadcasts]
    exact h.fresh
  waiting i m hm hopen := by
    obtain ⟨l, hl, hopen', heq⟩ := hlanes i m hm hopen
    rw [hbroadcasts, heq, h.waiting i l hl hopen']

end

/-- Only the queue of records was touched at a lane. -/
theorem Waits.of_records {e : Engine} (h : e.Waits) {site : Site} {i : Nat} {l : Lane}
    {records : Channel Record} (hl : e.site.lane? i = some l)
    (hlanes : site.lanes = e.site.lanes.set i { l with records }) : Waits { e with site } := by
  refine h.of_lanes rfl fun j m hm hopen => ?_
  rcases Site.lane?_of_set hlanes hm with ⟨rfl, rfl⟩ | ⟨-, hm⟩
  · exact ⟨l, hl, hopen, rfl⟩
  · exact ⟨m, hm, hopen, rfl⟩

theorem keepsWaiting_of_acts {s t : Site} {ts : List (Nat × Lane.Taken)} (h : s.Acts ts t) {i : Nat}
    {m : Lane} (hm : t.lane? i = some m) : ∃ l, s.lane? i = some l ∧ l.KeepsWaiting m := by
  cases h with
  | replica hl hstep ht =>
    rcases Site.lane?_of_set ht hm with ⟨rfl, rfl⟩ | ⟨-, hm⟩
    · exact ⟨_, hl, Lane.keepsWaiting_of_moves (Lane.moves_of_replicaStep hstep)⟩
    · exact ⟨m, hm, Lane.keepsWaiting_of_same rfl rfl⟩
  | worker hl hstep ht =>
    rcases Site.lane?_of_set ht hm with ⟨rfl, rfl⟩ | ⟨-, hm⟩
    · obtain ⟨worker, requests, outcomes, rfl⟩ := Lane.ofWorker_workerStep hstep
      exact ⟨_, hl, Lane.keepsWaiting_of_same rfl rfl⟩
    · exact ⟨m, hm, Lane.keepsWaiting_of_same rfl rfl⟩
  | rest ht =>
    unfold Site.lane? at hm ⊢
    exact ⟨m, ht ▸ hm, Lane.keepsWaiting_of_same rfl rfl⟩

theorem Waits.acts {s t : Scene} {acts : List Act} (h : s.engine.Waits) (hact : Acts s acts t) :
    t.engine.Waits := by
  cases hact with
  | ask hask =>
    rw [eq_of_broadcast hask]
    refine ⟨fun b hb => ?_, fun i l hl hopen => ?_⟩
    · dsimp only at hb
      cases hbs : s.engine.broadcasts with
      | nil =>
        rw [hbs] at hb
        cases hb
      | cons c rest =>
        rw [hbs] at hb
        rcases List.mem_append.1 hb with hb | hb
        · exact h.others hbs b hb
        · cases List.mem_singleton.1 hb
          exact ⟨rfl, rfl⟩
    · rw [h.waiting i l hl hopen]
      cases hbs : s.engine.broadcasts with
      | nil => rfl
      | cons c rest => rfl
  | @tell b rest site hb hnext hfan =>
    have hl : s.engine.site.lane? b.next = some s.engine.site.lanes[b.next] :=
      List.getElem?_eq_getElem hnext
    obtain ⟨hopen, updates, -, hnone, hlanes⟩ := told_of_fanOut hl (h.here hb hl) hfan
    exact h.of_set hb hlanes hnone fun _ _ => rfl
  | @wait b b' rest site hb hfan =>
    obtain ⟨rfl, l, updates, hl, hopen, -, hwaiting, hlanes⟩ :=
      stuck_of_fanOut (fun l hl => h.here hb hl) hfan
    refine h.of_set hb hlanes (hwaiting.trans (if_pos ⟨rfl, rfl⟩).symm) fun i hi => ?_
    exact postedAt_elsewhere (b := ⟨b.update, b.next, true⟩) (Ne.symm hi) rest
  | @fail b rest site i hb hfan =>
    obtain ⟨rfl, rfl, l, hl, hclosed⟩ := failed_of_fanOut hfan
    refine h.of_over hb fun m hm => ?_
    cases hl.symm.trans hm
    exact hclosed
  | @answer b rest hb hend =>
    refine h.of_over hb fun m hm => ?_
    have hlt := (List.getElem?_eq_some_iff.1 hm).1
    exact absurd hlt (Nat.not_lt.2 hend)
  | deal | refuse => exact ⟨h.fresh, h.waiting⟩
  | post _ _ hdealt hl hopen => exact h.of_records hl (Site.lanes_modifyLane hl _)
  | enter hl hopen henter hr => exact h.of_records hl (Site.lanes_modifyLane hl _)
  | @lanes ts site hsite =>
    refine h.of_lanes rfl fun i m hm hopen => ?_
    obtain ⟨l, hl, hkeeps⟩ := keepsWaiting_of_acts hsite hm
    exact ⟨l, hl, hkeeps.updates hopen⟩

/-! ### The stories of the lanes -/

theorem does_of_set {s site : Site} {i : Nat} {l l' : Lane} {es : List Lane.Entry}
    (hl : s.lane? i = some l) (hlanes : site.lanes = s.lanes.set i l') (hdoes : l.Does es l')
    {j : Nat} {m : Lane} (hm : site.lane? j = some m) :
    ∃ k, s.lane? j = some k ∧ k.Does (if i = j then es else []) m := by
  rcases Site.lane?_of_set hlanes hm with ⟨rfl, rfl⟩ | ⟨hne, hm⟩
  · exact ⟨l, hl, by rw [if_pos rfl]; exact hdoes⟩
  · exact ⟨m, hm, by rw [if_neg (Ne.symm hne)]; exact .nothing⟩

/-- Each lane does what is its part in a step. -/
theorem Acts.does {s t : Scene} {acts : List Act} (hact : Acts s acts t) (h : s.engine.Waits)
    {j : Nat} {m : Lane} (hm : t.engine.site.lane? j = some m) :
    ∃ l, s.engine.site.lane? j = some l ∧ l.Does (entriesAt j acts) m := by
  cases hact with
  | ask hask =>
    rw [eq_of_broadcast hask] at hm
    exact ⟨m, hm, .nothing⟩
  | @tell b rest site hb hnext hfan =>
    have hl : s.engine.site.lane? b.next = some s.engine.site.lanes[b.next] :=
      List.getElem?_eq_getElem hnext
    obtain ⟨hopen, updates, hput, -, hlanes⟩ := told_of_fanOut hl (h.here hb hl) hfan
    rw [entriesAt_told]
    exact does_of_set hl hlanes (.tell hopen hput) hm
  | @wait b b' rest site hb hfan =>
    obtain ⟨rfl, l, updates, hl, hopen, hput, -, hlanes⟩ :=
      stuck_of_fanOut (fun l hl => h.here hb hl) hfan
    obtain ⟨k, hk, hdoes⟩ := does_of_set hl hlanes (.tell hopen hput) hm
    exact ⟨k, hk, by rwa [show Lane.tells [] = [] from rfl, ite_self] at hdoes⟩
  | @fail b rest site i hb hfan =>
    obtain ⟨rfl, rfl, -⟩ := failed_of_fanOut hfan
    exact ⟨m, hm, .nothing⟩
  | answer | deal | refuse => exact ⟨m, hm, .nothing⟩
  | @post i r l before after hdealt hl hopen =>
    -- Where there is no room the record only waits, and that is no entry of the story.
    obtain ⟨k, hk, hdoes⟩ := does_of_set hl (Site.lanes_modifyLane hl _)
      (.give hopen (l.records.puts_send r).1) hm
    refine ⟨k, hk, ?_⟩
    cases hroom : l.records.hasRoom with
    | true =>
      rw [hroom] at hdoes
      rw [if_pos rfl, entriesAt_given]
      exact hdoes
    | false =>
      rw [hroom] at hdoes
      rwa [show Lane.gives (if false = true then [r] else []) = [] from rfl, ite_self] at hdoes
  | @enter i r l p records hl hopen henter hr =>
    obtain ⟨x, hput, -⟩ := Channel.puts_of_enter? henter
    have hx : [x] = [r] := List.append_cancel_left (hput.queued.symm.trans hr)
    rw [hx] at hput
    rw [entriesAt_given]
    exact does_of_set hl (Site.lanes_modifyLane hl _) (.give hopen hput) hm
  | lanes hsite =>
    obtain ⟨l, hl, hdoes⟩ := hsite.does hm
    rw [entriesAt_took]
    exact ⟨l, hl, hdoes⟩

theorem Acts.length {s t : Scene} {acts : List Act} (hact : Acts s acts t) (h : s.engine.Waits) :
    t.engine.site.lanes.length = s.engine.site.lanes.length := by
  cases hact with
  | ask hask => rw [eq_of_broadcast hask]
  | tell hb hnext hfan =>
    have hl := List.getElem?_eq_getElem hnext
    obtain ⟨-, updates, -, -, hlanes⟩ := told_of_fanOut hl (h.here hb hl) hfan
    exact (congrArg List.length hlanes).trans List.length_set
  | wait hb hfan =>
    obtain ⟨-, l, updates, -, -, -, -, hlanes⟩ := stuck_of_fanOut (fun l hl => h.here hb hl) hfan
    exact (congrArg List.length hlanes).trans List.length_set
  | fail hb hfan =>
    obtain ⟨-, rfl, -⟩ := failed_of_fanOut hfan
    rfl
  | answer | deal | refuse => rfl
  | post | enter => exact List.length_modify ..
  | lanes hsite => exact hsite.length

section
variable {s t : Scene} {acts : List Act}

theorem Run.waits (hrun : Run s acts t) (h : s.engine.Waits) : t.engine.Waits := by
  induction hrun with
  | nil => exact h
  | snoc _ hact ih => exact ih.acts hact

theorem Run.length (hrun : Run s acts t) (h : s.engine.Waits) :
    t.engine.site.lanes.length = s.engine.site.lanes.length := by
  induction hrun with
  | nil => rfl
  | snoc hrun hact ih => exact (hact.length (hrun.waits h)).trans ih

/-- **What happened at a lane is its story.** -/
theorem Run.story (hrun : Run s acts t) (h : s.engine.Waits) {i : Nat} {m : Lane}
    (hm : t.engine.site.lane? i = some m) :
    ∃ l, s.engine.site.lane? i = some l ∧ Lane.Story l (entriesAt i acts) m := by
  induction hrun generalizing m with
  | nil => exact ⟨m, hm, .nil⟩
  | snoc hrun hact ih =>
    obtain ⟨l', hl', hdoes⟩ := hact.does (hrun.waits h) hm
    obtain ⟨l, hl, hstory⟩ := ih hl'
    rw [entriesAt_append]
    exact ⟨l, hl, hstory.snoc hdoes⟩

end

end Engine
end Watchpost
