import Watchpost.Proofs.Engine.Lifetime
import Watchpost.Proofs.Lane.Silence

/-! Broadcasts reach the lanes one after the other.

A lane was told of the broadcasts that returned, in the order in which they did, and of the one
that is under way if that has come by (`Run.told`). So any two lanes were told the same but for
that one, and number it alike (`one_order`). A broadcast that fails has only been at the lanes in
front of the one at which it failed (`broadcast_reaches`). -/
namespace Watchpost

namespace Engine

/-! ### What became of broadcasts -/

def Act.settled? (i : Nat) : Act → Option RuleUpdate
  | .answered u => some u
  | .failed u j => if i < j then some u else none
  | _ => none

/-- The updates of the broadcasts that are over and have been at a lane: they returned, or they
failed further on. -/
def settledAt (i : Nat) (acts : List Act) : List RuleUpdate := acts.filterMap (Act.settled? i)

/-- The update that is under way, if it has been at a lane. -/
def passed (i : Nat) : List Broadcast → List RuleUpdate
  | [] => []
  | b :: _ => if i < b.next then [b.update] else []

section
variable {s t : Scene} {acts : List Act}

theorem toldTo_append (i : Nat) (acts more : List Act) :
    toldTo i (acts ++ more) = toldTo i acts ++ toldTo i more := by
  unfold toldTo
  rw [entriesAt_append, Lane.told_append]

theorem settledAt_append (i : Nat) (acts more : List Act) :
    settledAt i (acts ++ more) = settledAt i acts ++ settledAt i more := List.filterMap_append

theorem passed_of_fresh {bs : List Broadcast} (h : ∀ b ∈ bs, b.next = 0 ∧ b.posted = false)
    (i : Nat) : passed i bs = [] := by
  cases bs with
  | nil => rfl
  | cons b rest =>
    refine if_neg fun hlt => ?_
    rw [(h b (List.mem_cons_self ..)).1] at hlt
    exact Nat.not_lt_zero i hlt

theorem toldTo_told (i j : Nat) (u : RuleUpdate) :
    toldTo j [.told i u] = if i = j then [u] else [] := by
  unfold toldTo
  rw [entriesAt_told]
  split <;> rfl

theorem toldTo_given (i j : Nat) (r : Record) : toldTo j [.given i r] = [] := by
  unfold toldTo
  rw [entriesAt_given]
  split <;> rfl

theorem toldTo_took (i : Nat) (ts : List (Nat × Lane.Taken)) :
    toldTo i (ts.map fun t => .took t.1 t.2) = [] := by
  unfold toldTo
  rw [entriesAt_took, Lane.told_taken]

theorem settledAt_took (i : Nat) (ts : List (Nat × Lane.Taken)) :
    settledAt i (ts.map fun t => .took t.1 t.2) = [] := by
  unfold settledAt
  rw [List.filterMap_map]
  exact List.filterMap_eq_nil_iff.2 fun _ _ => rfl

/-- A broadcast comes by at one lane after the other, and is over when it has been at all. -/
theorem Acts.told (hact : Acts s acts t) (h : s.engine.Waits) {i : Nat}
    (hi : i < s.engine.site.lanes.length) :
    passed i s.engine.broadcasts ++ toldTo i acts =
      settledAt i acts ++ passed i t.engine.broadcasts := by
  cases hact with
  | ask hask =>
    rw [eq_of_broadcast hask]
    cases hbs : s.engine.broadcasts <;> exact List.append_nil _
  | @tell b rest site hb hnext hfan =>
    rw [hb, toldTo_told]
    show (if i < b.next then [b.update] else []) ++ _ = if i < b.next + 1 then [b.update] else []
    rcases Nat.lt_trichotomy i b.next with hlt | rfl | hgt
    · rw [if_pos hlt, if_neg (by omega), if_pos (by omega)]
      rfl
    · rw [if_neg (Nat.lt_irrefl _), if_pos rfl, if_pos (Nat.lt_succ_self _)]
      rfl
    · rw [if_neg (by omega), if_neg (by omega), if_neg (by omega)]
      rfl
  | wait hb hfan =>
    obtain ⟨rfl, -⟩ := stuck_of_fanOut (fun l hl => h.here hb hl) hfan
    rw [hb]
    exact List.append_nil _
  | @fail b rest site j hb hfan =>
    obtain ⟨rfl, -, -⟩ := failed_of_fanOut hfan
    rw [passed_of_fresh (h.others hb), hb]
    show (if i < b.next then [b.update] else []) ++ [] = settledAt i [.failed b.update b.next] ++ []
    unfold settledAt Act.settled?
    by_cases hlt : i < b.next <;> simp [hlt]
  | @answer b rest hb hend =>
    rw [passed_of_fresh (h.others hb), hb]
    exact congrArg (· ++ []) (if_pos (Nat.lt_of_lt_of_le hi hend))
  | deal | refuse => exact List.append_nil _
  | @post j r l before after hdealt hl hopen =>
    cases l.records.hasRoom with
    | true =>
      rw [if_pos rfl, toldTo_given]
      exact List.append_nil _
    | false => exact List.append_nil _
  | enter =>
    rw [toldTo_given]
    exact List.append_nil _
  | lanes =>
    rw [toldTo_took, settledAt_took]
    exact List.append_nil _

/-- **A lane was told of the broadcasts that have been there**, in one order for all lanes. -/
theorem Run.told (hrun : Run s acts t) (h : s.engine.Waits) (hnone : s.engine.broadcasts = [])
    {i : Nat} (hi : i < s.engine.site.lanes.length) :
    toldTo i acts = settledAt i acts ++ passed i t.engine.broadcasts := by
  induction hrun with
  | nil => rw [hnone]; rfl
  | snoc hrun hact ih =>
    have hstep := hact.told (hrun.waits h) (i := i) (by rw [hrun.length h]; exact hi)
    rw [toldTo_append, settledAt_append, ih, List.append_assoc, hstep, List.append_assoc]

end

/-! ### While all lanes are there -/

section
variable {e e₁ : Engine} {acts : List Act} {s : Scene}

/-- A step tells of no broadcast that it is over, or of the oldest one: this has been at all lanes,
or is at one that is closed. -/
theorem Acts.ended {t : Scene} {more : List Act} (hact : Acts s more t) :
    (∀ u j, .answered u ∉ more ∧ .failed u j ∉ more) ∨
      ∃ b, s.engine.broadcasts = b :: t.engine.broadcasts ∧ t.engine.site = s.engine.site ∧
        (more = [.answered b.update] ∨ more = [.failed b.update b.next] ∧
          ∃ l, s.engine.site.lane? b.next = some l ∧ l.updates.isOpen = false) := by
  cases hact with
  | answer hb => exact .inr ⟨_, hb, rfl, .inl rfl⟩
  | fail hb hfan =>
    obtain ⟨rfl, rfl, hclosed⟩ := failed_of_fanOut hfan
    exact .inr ⟨_, hb, rfl, .inr ⟨rfl, hclosed⟩⟩
  | ask | wait => exact .inl fun _ _ => ⟨List.not_mem_nil, List.not_mem_nil⟩
  | tell | deal | refuse | enter => exact .inl fun _ _ => by simp
  | post => exact .inl fun _ _ => by split <;> simp
  | lanes => exact .inl fun _ _ => by simp

end

/-! ### Numbers -/

/-- Updates with the numbers that a replica of this engine gives them. -/
def numbered (e : Engine) (us : List RuleUpdate) : List (RuleUpdate × UInt64) :=
  us.mapIdx fun k u => (u, seqAt (e.newLane 0).replica.lastIssued k)

/-- **How far a broadcast gets.** One that returns has been at all lanes. One that fails does so at
the first lane that is over, and has only been at those in front; the lanes behind, whether they are
over or not, are never told. -/
theorem broadcast_reaches {e e₁ : Engine} {acts more : List Act} {s t : Scene}
    (hstart : e.start = .ok e₁) (hrun : Run { engine := e₁ } acts s) (hact : Acts s more t) {i : Nat}
    (hi : i < e.settings.replicas) :
    (∀ u, .answered u ∈ more → toldTo i (acts ++ more) = settledAt i acts ++ [u]) ∧
    ∀ u j, .failed u j ∈ more → (∃ l, t.engine.site.lane? j = some l ∧ l.isOver = true) ∧
      toldTo i (acts ++ more) = settledAt i acts ++ if i < j then [u] else [] := by
  have hwaits := hrun.waits (waits_of_start hstart)
  have htold := (hrun.snoc hact).told (waits_of_start hstart) (start_eq_ok hstart).2.1 (i := i)
    (by rw [length_of_start hstart]; exact hi)
  rw [settledAt_append] at htold
  rcases hact.ended with hnone | ⟨b, hb, hsite, hmore⟩
  · exact ⟨fun u hmem => absurd hmem (hnone u 0).1, fun u j hmem => absurd hmem (hnone u j).2⟩
  rw [passed_of_fresh (hwaits.others hb), List.append_nil] at htold
  rcases hmore with rfl | ⟨rfl, l, hl, hclosed⟩
  · refine ⟨fun u hmem => ?_, fun u j hmem => ?_⟩
    · cases List.mem_singleton.1 hmem
      exact htold
    · cases List.mem_singleton.1 hmem
  · refine ⟨fun u hmem => ?_, fun u j hmem => ?_⟩
    · cases List.mem_singleton.1 hmem
    · cases List.mem_singleton.1 hmem
      refine ⟨⟨l, hsite ▸ hl, ?_⟩, ?_⟩
      · have haccounted := (hrun.story_of_start hstart hl).accounted (blank_newLane e b.next)
        rw [haccounted.updatesOpen] at hclosed
        simpa using hclosed
      · rw [htold]
        unfold settledAt Act.settled?
        by_cases hlt : i < b.next <;> simp [hlt]

/-- A world whose store brings down who loads its rules. -/
def breakingWorld : World := { World.prompt .empty with store := { usual := .breaks } }

/-- The first lane of a pair is brought down by the record that it is given, and the deletion that
is broadcast then fails there. -/
theorem exists_failed_pair : ∃ acts s more t l,
    Run { engine := runningPair breakingWorld } acts s ∧ Acts s more t ∧
    .failed ⟨"A", .delete⟩ 0 ∈ more ∧ t.engine.site.lane? 1 = some l ∧ l.isOver = false ∧
    settledAt 1 acts = [] := by
  let w := breakingWorld
  let r := Lane.sampleRecord
  let empty : Lane := { (pair w).newLane 0 with records := { capacity := 1 } }
  let given : Lane := { (pair w).newLane 0 with
    looking := .records, records := { capacity := 1, queued := [r] } }
  obtain ⟨event, hread⟩ := Option.isSome_iff_exists.1
    (show (w.normalizer.ofRecord? r).isSome = true by decide +kernel)
  -- The record is an event, and to load the rules for it brings the replica down.
  have hbreaks : (empty.takeRecord w r).2.isOver = true ∧
      (empty.takeRecord w r).2.updates.isOpen = false := by
    unfold Lane.takeRecord Replica.read
    rw [hread]
    exact ⟨rfl, rfl⟩
  have hnext : given.records.next? = some (some r, empty.records) := rfl
  have htakes : given.replicaStep w = some (empty.takeRecord w r) :=
    Lane.replicaStep_record (l := given) rfl rfl rfl hnext
  obtain ⟨w', broken, hstep, hover, hclosed⟩ : ∃ w' broken,
      given.replicaStep w = some (w', broken) ∧ broken.isOver = true ∧
        broken.updates.isOpen = false := by
    generalize empty.takeRecord w r = next at hbreaks htakes
    obtain ⟨w', broken⟩ := next
    exact ⟨w', broken, htakes, hbreaks⟩
  have dealt := (run_looking w).snoc (.deal r rfl)
  have posted := dealt.snoc (.post (i := 0) [] [] rfl rfl rfl)
  obtain ⟨acts, s, hrun, hsettled, hrunning, hnone, hlanes⟩ : ∃ acts s,
      Run { engine := runningPair w } acts s ∧ settledAt 1 acts = [] ∧
      s.engine.isRunning = true ∧ s.engine.broadcasts = [] ∧
      s.engine.site.lanes = [broken, (pair w).newLane 1] :=
    ⟨_, _, posted.snoc (.lanes (.replica (i := 0) (t := .ofLanes w [broken, (pair w).newLane 1])
      rfl hstep rfl)), rfl, rfl, rfl, rfl⟩
  have hl : s.engine.site.lane? 0 = some broken := by
    unfold Site.lane?
    rw [hlanes]
    rfl
  have hask : s.engine.broadcast ⟨"A", .delete⟩ =
      .ok { s.engine with broadcasts := [⟨⟨"A", .delete⟩, 0, false⟩] } := by
    unfold broadcast
    rw [if_pos hrunning, hnone]
    rfl
  have hfan : fanOut s.engine.site ⟨"A", .delete⟩ 0 false 1 = .failed s.engine.site 0 := by
    rw [fanOut_one hl, hclosed]
    rfl
  refine ⟨_, _, _, _, (pair w).newLane 1, hrun.snoc (.ask hask), .fail rfl hfan,
    List.mem_singleton.2 rfl, ?_, rfl, ?_⟩
  · unfold Site.lane?
    rw [hlanes]
    rfl
  · rw [settledAt_append, hsettled]
    rfl

/-- The first lane of a pair is over, and so the second one is not told of the deletion. -/
theorem broadcast_reaches_pair : ∃ acts more,
    (∃ s t, Run { engine := runningPair breakingWorld } acts s ∧ Acts s more t) ∧
    .failed ⟨"A", .delete⟩ 0 ∈ more ∧ toldTo 1 (acts ++ more) = [] := by
  obtain ⟨acts, s, more, t, l, hrun, hact, hfailed, -, -, hsettled⟩ := exists_failed_pair
  obtain ⟨-, htold⟩ := (broadcast_reaches (start_pair _) hrun hact (i := 1) (by decide)).2 _ _ hfailed
  refine ⟨acts, more, ⟨s, t, hrun, hact⟩, hfailed, ?_⟩
  rw [htold, hsettled]
  rfl

/-- A broadcast fails while a lane behind goes on that never hears of it. -/
theorem broadcast_skips_live : ¬∀ (e e₁ : Engine) (acts more : List Act) (s t : Scene) (u : RuleUpdate)
    (j : Nat), e.start = .ok e₁ → Run { engine := e₁ } acts s → Acts s more t → .failed u j ∈ more →
    ∀ i l, t.engine.site.lane? i = some l → l.isOver = false → u ∈ toldTo i (acts ++ more) := by
  intro hreaches
  obtain ⟨acts, s, more, t, l, hrun, hact, hfailed, hl, hlive, hsettled⟩ := exists_failed_pair
  have hmem := hreaches _ _ acts more s t _ 0 (start_pair _) hrun hact hfailed 1 l hl hlive
  have htold := (hrun.snoc hact).told (waits_of_start (start_pair _)) rfl (i := 1) (by decide)
  rcases hact.ended with hnone | ⟨b, hb, -, rfl | ⟨rfl, -⟩⟩
  · exact (hnone _ 0).2 hfailed
  · cases List.mem_singleton.1 hfailed
  · obtain ⟨-, hnext⟩ := Act.failed.inj (List.mem_singleton.1 hfailed)
    rw [htold, settledAt_append, hsettled, ← hnext,
      passed_of_fresh ((hrun.waits (waits_of_start (start_pair _))).others hb)] at hmem
    cases hmem

end Engine
end Watchpost
