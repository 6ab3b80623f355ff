import Rdashboard.Dashboard.EventHub
import Rdashboard.Library.Check
import Rdashboard.Library.Transaction

/-! # What a dashboard client is sent

Whatever the hub and its connections do, what a client is sent is in the order of the numbers, an
ordinary event comes twice only right after a resync message, and no event that the client expects
is left out without one. -/

namespace Rdashboard

open List
open Relational (Reaches)

variable {ι S : Type}

/-- Up to which number a resync message covers the events; `none` for an ordinary event. -/
def EventEnvelope.resyncThrough (e : EventEnvelope S) : Option Nat :=
  match e.event with
  | .snapshot _ => none
  | .resyncRequired _ _ latest _ => some latest

abbrev EventEnvelope.Ordinary (e : EventEnvelope S) : Prop := e.resyncThrough = none

/-- The client was sent `e`, or a resync message that covers it. -/
def Accounted (delivered : List (EventEnvelope S)) (e : EventEnvelope S) : Prop :=
  e ∈ delivered ∨ ∃ r ∈ delivered, ∃ n ∈ r.resyncThrough, e.sequence ≤ n

/-- `m` may follow `earlier` in what is sent to a client that expects the events above `after`. -/
structure Delivers (published : List (EventEnvelope S)) (after : Nat)
    (earlier : List (EventEnvelope S)) (m : EventEnvelope S) : Prop where
  ordered : ∀ m' ∈ earlier, m'.sequence ≤ m.sequence
  once : m.Ordinary → (∃ m' ∈ earlier, m'.Ordinary ∧ m'.sequence = m.sequence) →
    ∃ r ∈ earlier.getLast?, ¬ r.Ordinary
  complete : m.Ordinary → ∀ e ∈ published, after < e.sequence → e.sequence < m.sequence →
    Accounted earlier e

variable {store : ControlStore S} {p sent rest events : List (EventEnvelope S)}
variable {s s' : EventStream S} {e m : EventEnvelope S} {L n : Nat} {clock : Option Int}
variable {after requested : Option Nat} {reason : ResyncReason} {w : EventHistoryWindow S}

/-! ### The history -/

/-- The store after the events `p` were published. -/
structure Logged (store : ControlStore S) (p : List (EventEnvelope S)) : Prop where
  sorted : p.Pairwise (·.sequence < ·.sequence)
  le : ∀ e ∈ p, e.sequence ≤ store.eventSequence
  last : ∀ l ∈ p.getLast?, l.sequence = store.eventSequence
  rows : store.rows = p.filter fun e => store.eventSequence < e.sequence + eventHistoryLimit

/-- What a read of the history gives of a log: nothing of the empty one, and else its last event. -/
theorem Logged.window (h : Logged store p) (hw : store.eventHistoryWindow after n = .ok w) :
    (p = [] ∧ w.bounds = none) ∨
      ∃ l ∈ p, ∃ oldest, l.sequence = store.eventSequence ∧ w.latestEvent = some l ∧
        w.bounds = some (oldest, store.eventSequence) ∧
        store.eventSequence < oldest + eventHistoryLimit := by
  simp only [ControlStore.eventHistoryWindow] at hw
  split at hw
  · cases hw
  obtain rfl := Except.ok.inj hw
  have hrows := h.rows
  obtain rfl | ⟨q, l, rfl⟩ := p.eq_nil_or_concat'
  · exact .inl ⟨rfl, by simp [hrows]⟩
  have hl : l.sequence = store.eventSequence := h.last l (by simp)
  have hlast : store.rows.getLast? = some l := by
    simp [hrows, hl, filter_append, eventHistoryLimit]
  cases ho : store.rows with
  | nil => simp [ho] at hlast
  | cons oldest rest =>
    have : oldest ∈ store.rows := ho ▸ mem_cons_self
    rw [hrows, mem_filter, decide_eq_true_iff] at this
    rw [ho] at hlast
    exact .inr ⟨l, by simp, oldest.sequence, hl, hlast, by simp [hlast, hl], this.2⟩

/-! ### One stream -/

/-- A stream of the events `p`, of which `latest` is the greatest number. -/
structure EventStream.Follows (p : List (EventEnvelope S)) (latest : Nat) (s : EventStream S) :
    Prop where
  delivers : ∀ earlier m, earlier ++ [m] <+: s.delivered → Delivers p s.after earlier m
  bounded : ∀ m ∈ s.delivered, ∃ c, s.cursor = some c ∧ m.sequence ≤ c
  cursor_le : ∀ c, s.cursor = some c → c ≤ latest
  accounted : ∀ c, s.cursor = some c → ∀ e ∈ p, s.after < e.sequence → e.sequence ≤ c →
    Accounted s.delivered e

/-- A stream that has accounted for all that is published. -/
def EventStream.Current (p : List (EventEnvelope S)) (latest : Nat) (s : EventStream S) : Prop :=
  s.Follows p latest ∧ ∀ e ∈ p, e.sequence ≤ s.cursor.getD s.after

namespace EventStream.Follows

theorem publish (hs : s.Follows p L) (he : e.sequence = L + 1) :
    s.Follows (p ++ [e]) (L + 1) := by
  have hold : ∀ x ∈ p ++ [e], x.sequence ≤ L → x ∈ p := by grind
  refine ⟨fun earlier m hm => ?_, hs.bounded, fun c hc => (hs.cursor_le c hc).step,
    fun c hc x hx ha hle => hs.accounted c hc x (hold x hx (hle.trans (hs.cursor_le c hc))) ha hle⟩
  have h := hs.delivers earlier m hm
  obtain ⟨c, hc, hmc⟩ := hs.bounded m (hm.subset (by simp))
  have := hs.cursor_le c hc
  exact ⟨h.ordered, h.once, fun ho x hx ha hlt => h.complete ho x (hold x hx (by omega)) ha hlt⟩

theorem deliver (hs : s.Follows p L) (hle : ∀ c, s.cursor = some c → c ≤ m.sequence)
    (hL : m.sequence ≤ L)
    (honce : m.Ordinary → s.cursor = some m.sequence → ∃ r ∈ s.delivered.getLast?, ¬ r.Ordinary)
    (hbefore : m.Ordinary → ∀ e ∈ p, s.after < e.sequence → e.sequence < m.sequence →
      Accounted s.delivered e)
    (hacc : ∀ e ∈ p, s.after < e.sequence → e.sequence ≤ m.sequence →
      Accounted (s.delivered ++ [m]) e) :
    ({ s with cursor := some m.sequence, delivered := s.delivered ++ [m] } :
      EventStream S).Follows p L where
  delivers earlier x hx := by
    rcases prefix_concat_iff.1 hx with hx | hx
    · obtain ⟨rfl, hxm⟩ := append_inj' hx rfl
      cases hxm
      refine ⟨fun x hx => ?_, ?_, hbefore⟩
      · obtain ⟨c, hc, hxc⟩ := hs.bounded x hx
        exact hxc.trans (hle c hc)
      · rintro ho ⟨x, hx, -, heq⟩
        obtain ⟨c, hc, hxc⟩ := hs.bounded x hx
        have := hle c hc
        exact honce ho (hc.trans (by grind))
    · exact hs.delivers earlier x hx
  bounded := by grind [hs.bounded]
  cursor_le := by simpa
  accounted := by simpa

/-- After a resync the cursor is at the latest event, and the message covers all up to it. -/
theorem resync (h : Logged store p) (hs : s.Follows p store.eventSequence)
    (hw : store.eventHistoryWindow after n = .ok w)
    (hr : resyncFromWindow w requested reason clock = .ok events) :
    (s.resume events).Current p store.eventSequence := by
  obtain ⟨-, hnone⟩ | ⟨l, -, oldest, hl, hlast, hbounds, -⟩ := h.window hw
  · simp [resyncFromWindow, hnone] at hr
  cases clock with
  | none => simp [resyncFromWindow, hbounds] at hr
  | some now =>
    simp only [resyncFromWindow, hbounds, hlast, Option.toList_some, Except.ok.injEq] at hr
    subst hr
    set r : EventEnvelope S :=
      ⟨store.eventSequence, now, .resyncRequired requested oldest store.eventSequence reason⟩
    have hr : r.resyncThrough = some store.eventSequence := rfl
    have hcovers : ∀ x, ∀ e ∈ p, Accounted (s.delivered ++ [r] ++ x) e := fun x e he =>
      .inr ⟨r, by simp, _, hr, h.le e he⟩
    have hfirst : ({ s with
        cursor := some store.eventSequence
        delivered := s.delivered ++ [r] } : EventStream S).Follows p store.eventSequence :=
      hs.deliver (m := r) hs.cursor_le le_rfl (by simp [hr]) (by simp [hr])
        fun e he _ _ => by simpa using hcovers [] e he
    have hboth := hfirst.deliver (m := l) (by simp [hl]) hl.le (by simp [hr])
      (fun _ e he _ _ => by simpa using hcovers [] e he) fun e he _ _ => hcovers [l] e he
    rw [hl] at hboth
    have hresume : s.resume [r, l] = { s with
        cursor := some store.eventSequence, delivered := s.delivered ++ [r] ++ [l] } := by
      simp [resume, r, hl]
    rw [hresume]
    exact ⟨hboth, h.le⟩

theorem resyncEvents (h : Logged store p) (hs : s.Follows p store.eventSequence) (hp : p ≠ [])
    (hr : Rdashboard.resyncEvents store requested reason clock = .ok events) :
    (s.resume events).Current p store.eventSequence := by
  obtain ⟨w, hw, hr⟩ := Check.bind_ok_iff.1 hr
  obtain ⟨hp', -⟩ | ⟨l, -, oldest, -, -, hbounds, -⟩ := h.window hw
  · exact absurd hp' hp
  · exact hs.resync h hw (by simpa [hbounds] using hr)

theorem fresh (n : Nat) : ({ cursor := none, after := n } : EventStream S).Follows p L where
  delivers := by simp
  bounded := by simp
  cursor_le := by simp
  accounted := by simp

/-- A stream that starts with events of the history, among them all above `n`. -/
theorem replay (h : Logged store p) (hsub : events <+ p) (hlow : ∀ e ∈ events, n ≤ e.sequence)
    (hall : ∀ e ∈ p, n < e.sequence → e ∈ events) :
    (resume { cursor := none, after := n } events).Current p store.eventSequence := by
  have hbounded : ∀ e ∈ events, ∃ c, (events.map (·.sequence)).max? = some c ∧ e.sequence ≤ c := by
    intro e he
    have hmem : e.sequence ∈ events.map (·.sequence) := mem_map_of_mem he
    obtain ⟨c, hc⟩ := Option.isSome_iff_exists.1 (isSome_max?_of_mem hmem)
    exact ⟨c, hc, (max?_eq_some_iff.1 hc).2 _ hmem⟩
  have hcursor : ∀ c, (events.map (·.sequence)).max? = some c → ∃ e ∈ events, e.sequence = c :=
    fun c hc => mem_map.1 (max?_mem hc)
  refine ⟨⟨?_, hbounded, ?_, fun c _ e he ha _ => .inl (hall e he ha)⟩, fun e he => ?_⟩
  · rintro earlier m ⟨later, rfl⟩
    rw [append_assoc, singleton_append] at hsub hall
    obtain ⟨-, hlater, hearlier⟩ := pairwise_append.1 (h.sorted.sublist hsub)
    rw [pairwise_cons] at hlater
    exact ⟨by grind, by grind, fun _ x hx (ha : n < _) hxm => .inl (by grind)⟩
  · intro c hc
    obtain ⟨e, he, rfl⟩ := hcursor c hc
    exact h.le e (hsub.subset he)
  · by_cases ha : n < e.sequence
    · grind [resume]
    · cases hc : (events.map (·.sequence)).max? <;> grind [resume]

theorem start (h : Logged store p) {requested : RequestedAfter}
    (hs : EventStream.start store requested clock = .ok s) :
    s.Current p store.eventSequence := by
  obtain ⟨initial, hi, hs⟩ := Check.bind_ok_iff.1 hs
  obtain ⟨w, hw, hi⟩ := Check.bind_ok_iff.1 hi
  obtain ⟨rfl, hbounds⟩ | ⟨l, hl, oldest, hlL, hlast, hbounds, hold⟩ := h.window hw
  · simp only [hbounds] at hi
    cases hi
    have hreset (r : EventEnvelope S) (hr : r.sequence = 0) (hr' : ¬ r.Ordinary) (n : Nat) :
        (⟨some 0, [r], n⟩ : EventStream S).Follows [] store.eventSequence := by
      simpa [hr] using (fresh n).deliver (m := r) (p := []) (L := store.eventSequence)
        (by simp) (by simp [hr]) (by simp) (by simp) (by simp)
    refine ⟨?_, by simp⟩
    match requested, clock with
    | .absent, _ | .sequence 0, _ => cases hs; exact fresh _
    | .invalid, none | .sequence (_ + 1), none => cases hs
    | .invalid, some _ | .sequence (_ + 1), some _ =>
      cases hs
      exact hreset _ rfl (by simp [EventEnvelope.resyncThrough]) _
  · simp only [hbounds] at hi
    obtain ⟨events, he, hi⟩ := Check.bind_ok_iff.1 hi
    cases hi
    obtain rfl := Check.pure_ok_iff.1 hs
    have hresync {requested' : Option Nat} {reason : ResyncReason}
        (hr : resyncFromWindow w requested' reason clock = .ok events) :=
      (fresh (requested.threshold store.eventSequence)).resync h hw hr
    cases requested with
    | absent =>
      obtain rfl : events = [l] := by simpa [hlast, eq_comm] using he
      exact replay h (singleton_sublist.2 hl) (by simp [hlL, RequestedAfter.threshold])
        fun e he ha => absurd (h.le e he) ha.not_ge
    | invalid => exact hresync he
    | sequence after =>
      simp only at he
      split at he
      · exact hresync he
      split at he
      next hwithin hcontiguous =>
        obtain rfl := Except.ok.inj he
        obtain ⟨q, hq, hev⟩ : ∃ q, q = (store.rows.filter fun e => after < e.sequence) ∧
            w.eventsAfter = q.take sseHistoryLimit := by
          unfold ControlStore.eventHistoryWindow at hw
          split at hw
          · cases hw
          · obtain rfl := Except.ok.inj hw
            exact ⟨_, rfl, rfl⟩
        have hqp : q <+ p := hq ▸ h.rows ▸ filter_sublist.trans filter_sublist
        rw [hev] at hcontiguous ⊢
        refine replay h ((take_sublist _ _).trans hqp) (fun e he => ?_) fun e he ha => ?_
        · have := mem_of_mem_take he
          simp only [hq, mem_filter, decide_eq_true_iff] at this
          exact this.2.le
        · change after < e.sequence at ha
          have heq : e ∈ q := by
            simp only [hq, h.rows, mem_filter, decide_eq_true_iff]
            exact ⟨⟨he, by omega⟩, ha⟩
          have heL := h.le e he
          -- the limit cuts nothing off: the events read go up to the latest
          rw [← take_append_drop sseHistoryLimit q] at heq hqp
          refine (mem_append.1 heq).resolve_right fun hdrop => ?_
          obtain rfl | hreaches := hcontiguous.2.1
          · omega
          · obtain ⟨x, hx, hxL⟩ := (Option.any_eq_true _ _).1 hreaches
            have := (pairwise_append.1 (h.sorted.sublist hqp)).2.2 x (mem_of_getLast? hx) e hdrop
            simp only [decide_eq_true_iff] at hxL
            omega
      · exact hresync he

/-- A turn of a stream that has accounted for what its receiver has taken. -/
theorem turn (h : Logged store (sent ++ rest)) (hs : s.Follows (sent ++ rest) store.eventSequence)
    {k k' : Nat} (hk : k ≤ sent.length)
    (htaken : ∀ e ∈ sent.take k, e.sequence ≤ s.cursor.getD s.after)
    (ht : s.turn store sent clock k = .ok (k', s')) :
    s'.Follows (sent ++ rest) store.eventSequence ∧ k' ≤ sent.length ∧
      ∀ e ∈ sent.take k', e.sequence ≤ s'.cursor.getD s'.after := by
  rw [EventStream.turn] at ht
  split at ht
  next hlag =>
    obtain ⟨events, hr, ht⟩ := Check.bind_ok_iff.1 ht
    obtain ⟨rfl, rfl⟩ := Prod.mk.inj (Check.pure_ok_iff.1 ht)
    obtain ⟨hs', hc⟩ := hs.resyncEvents h (by rintro h; simp_all) hr
    exact ⟨hs', Nat.sub_le _ _, fun e he => hc e (mem_append_left _ (mem_of_mem_take he))⟩
  split at ht
  · cases ht
    exact ⟨hs, hk, htaken⟩
  next e he =>
    have hk : k < sent.length := (List.getElem?_eq_some_iff.1 he).1
    have htake : sent.take (k + 1) = sent.take k ++ [e] := by simp [take_add_one, he]
    obtain ⟨later, hsplit⟩ : ∃ later, sent ++ rest = sent.take k ++ e :: later := by
      refine ⟨sent.drop (k + 1) ++ rest, ?_⟩
      rw [append_cons, ← htake, ← append_assoc, take_append_drop]
    have hep : e ∈ sent ++ rest := by simp [hsplit]
    obtain ⟨-, hlater, htaken'⟩ := pairwise_append.1 (hsplit ▸ h.sorted)
    have hmem : ∀ x ∈ sent ++ rest, x ∈ sent.take k ∧ x.sequence < e.sequence ∨ x = e ∨
        e.sequence < x.sequence := by
      rw [pairwise_cons] at hlater
      rw [hsplit]
      grind
    have hle : ∀ x ∈ sent.take (k + 1), x.sequence ≤ e.sequence := by grind
    split at ht
    next hseen =>
      cases ht
      obtain ⟨c, hc, hec⟩ := (Option.any_eq_true _ _).1 hseen
      exact ⟨hs, hk, fun x hx => (hle x hx).trans (by simpa [hc] using hec)⟩
    split at ht
    next hnew hgap =>
      obtain ⟨events, hr, ht⟩ := Check.bind_ok_iff.1 ht
      cases ht
      obtain ⟨hs', hc⟩ := hs.resyncEvents h (ne_nil_of_mem hep) hr
      exact ⟨hs', hk, fun x hx => (hle x hx).trans (hc e hep)⟩
    next hnew _ =>
      cases ht
      have hlt : ∀ c, s.cursor = some c → c < e.sequence := by grind
      -- the receiver has taken what was published before `e`
      have hbefore : ∀ x ∈ sent ++ rest, s.after < x.sequence → x.sequence < e.sequence →
          Accounted s.delivered x := by
        intro x hx ha hxe
        have := htaken x (by grind)
        cases hc : s.cursor with
        | none => simp [hc] at this; omega
        | some c => exact hs.accounted c hc x hx ha (by simpa [hc] using this)
      refine ⟨hs.deliver (fun c hc => (hlt c hc).le) (h.le e hep)
        (fun _ hc => absurd (hlt _ hc) (lt_irrefl _)) (fun _ => hbefore) ?_, hk, hle⟩
      intro x hx ha hxe
      rcases hmem x hx with ⟨-, hxe⟩ | rfl | hxe
      · exact (hbefore x hx ha hxe).imp (mem_append_left _)
          fun ⟨r, hr, hn⟩ => ⟨r, mem_append_left _ hr, hn⟩
      · exact .inl (by simp)
      · omega

end EventStream.Follows

/-! ### The hub -/

/-- A connection whose stream has accounted for what its receiver has taken. -/
def Connection.Follows (hub : EventHub ι S) (c : Connection S) : Prop :=
  c.received ≤ hub.sent.length ∧ ∀ s, c.stream = some s →
    s.Follows hub.published hub.store.eventSequence ∧
      ∀ e ∈ hub.sent.take c.received, e.sequence ≤ s.cursor.getD s.after

structure EventHub.Consistent (hub : EventHub ι S) : Prop where
  logged : Logged hub.store hub.published
  connections : ∀ i c, hub.connections i = some c → c.Follows hub

namespace EventHub.Consistent

variable {hub : EventHub ι S}

theorem append (h : hub.Consistent) (hpub : hub.publishing = none) {t : Int}
    {event : DashboardEvent S} {store : ControlStore S}
    (ha : hub.store.appendEvent t event = .ok (e, store)) :
    { hub with store, publishing := some e }.Consistent := by
  simp only [ControlStore.appendEvent] at ha
  split at ha
  · cases ha
  cases ha
  have hp : hub.published = hub.sent := by simp [published, hpub]
  have hlog := hp ▸ h.logged
  have hle := hlog.le
  refine ⟨⟨pairwise_append.2 ⟨hlog.sorted, by simp, by grind⟩, ?_, by simp [published], ?_⟩,
    fun i c hc => ?_⟩
  · simp only [published, Option.toList_some]
    grind
  · simp only [hlog.rows, published, filter_append, filter_filter, Option.toList_some]
    congr 1
    refine filter_congr fun x _ => ?_
    grind
  · obtain ⟨hk, hs⟩ := h.connections i c hc
    exact ⟨hk, fun s hsc => (hs s hsc).imp_left fun hs => (hp ▸ hs).publish rfl⟩

theorem send (h : hub.Consistent) :
    { hub with sent := hub.published, publishing := none }.Consistent := by
  refine ⟨by simpa [published] using h.logged, fun i c hc => ?_⟩
  obtain ⟨hk, hs⟩ := h.connections i c hc
  exact ⟨hk.trans (by simp [published]),
    by simpa [published, take_append_of_le_length hk] using hs⟩

theorem proceed (h : hub.Consistent) {i : ι} {c c' : Connection S}
    (hc : hub.connections i = some c) (hp : c.proceed hub.store hub.sent clock = .ok c') :
    c'.Follows hub := by
  obtain ⟨hk, hs⟩ := h.connections i c hc
  rw [Connection.proceed] at hp
  split at hp
  · obtain ⟨s, hs, hp⟩ := Check.bind_ok_iff.1 hp
    cases hp
    obtain ⟨hs, hle⟩ := EventStream.Follows.start h.logged hs
    refine ⟨hk, fun s' hs' => ?_⟩
    obtain rfl := Option.some.inj hs'
    exact ⟨hs, fun e he => hle e (mem_append_left _ (mem_of_mem_take he))⟩
  next s hsc =>
    obtain ⟨⟨k, s'⟩, ht, hp⟩ := Check.bind_ok_iff.1 hp
    cases hp
    obtain ⟨hs', hk', htaken⟩ := (hs s hsc).1.turn h.logged hk (hs s hsc).2 ht
    refine ⟨hk', fun s'' hs'' => ?_⟩
    obtain rfl := Option.some.inj hs''
    exact ⟨hs', htaken⟩

theorem connect [DecidableEq ι] (h : hub.Consistent) {i : ι} {c : Option (Connection S)}
    (hc : ∀ c', c = some c' → c'.Follows hub) : (hub.connect i c).Consistent := by
  refine ⟨h.logged, fun j c' hc' => ?_⟩
  simp only [EventHub.connect] at hc'
  split at hc'
  · exact hc c' hc'
  · exact h.connections j c' hc'

theorem step [DecidableEq ι] (h : hub.Consistent) (action : HubAction ι S) :
    (hub.step action).Consistent := by
  cases action with
  | append t event =>
    simp only [EventHub.step]
    split
    next hpub ha => exact h.append hpub ha
    · exact h
  | send => exact h.send
  | subscribe i requested =>
    refine h.connect fun c hc => ?_
    obtain rfl := Option.some.inj hc
    exact ⟨le_rfl, by simp⟩
  | proceed i clock =>
    refine h.connect fun c' hc' => ?_
    obtain ⟨c, hc, hp⟩ := Option.bind_eq_some_iff.1 hc'
    have hok : c.proceed hub.store hub.sent clock = .ok c' := by
      cases hr : c.proceed hub.store hub.sent clock <;> simp_all [Except.toOption]
    exact h.proceed hc hok
  | close i => exact h.connect nofun
  | restart => exact ⟨h.send.logged, nofun⟩

end EventHub.Consistent

/-- In every state of the hub, each message a client was sent may follow those before it: nothing is
sent out of order, twice without a resync message right before, or with an expected event left out
and no resync message for it. -/
theorem delivers_of_reaches [DecidableEq ι] {hub : EventHub ι S}
    (h : Reaches EventHub.step (fun _ _ => True) {} hub) {i : ι} {c : Connection S}
    (hc : hub.connections i = some c) (hs : c.stream = some s)
    {earlier : List (EventEnvelope S)} (hm : earlier ++ [m] <+: s.delivered) :
    Delivers hub.published s.after earlier m := by
  have hinit : ({} : EventHub ι S).Consistent :=
    ⟨⟨.nil, by simp [EventHub.published], by simp [EventHub.published], rfl⟩, nofun⟩
  have := h.invariant hinit fun _ action _ h _ => h.step action
  exact ((this.connections i c hc).2 s hs).1.delivers earlier m hm

/-- A client whose `Last-Event-ID` is no number, with an event that is stored and not yet sent. -/
theorem delivers_after_resync :
    let hub : EventHub Unit Unit := Relational.runAll EventHub.step {}
      [.append 5 (.snapshot ()), .subscribe () .invalid, .proceed () (some 6)]
    let resync : EventEnvelope Unit := ⟨1, 6, .resyncRequired none 1 1 .invalidLastEventId⟩
    Delivers hub.published 0 [resync] ⟨1, 5, .snapshot ()⟩ := by
  intro hub resync
  exact delivers_of_reaches (Relational.reaches_runAll (by simp) .init) (i := ())
    (c := ⟨.invalid, 0, some ⟨some 1, [resync, ⟨1, 5, .snapshot ()⟩], 0⟩⟩) rfl rfl prefix_rfl

end Rdashboard
