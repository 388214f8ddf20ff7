import Sentinel.Proofs.Streaming.Calls
import Sentinel.Proofs.Streaming.Draining
import Sentinel.Proofs.Streaming.Feed
/-!
# What clients are given

A broadcast is worth what it brings to the clients. Whatever their transports are, what is broadcast is given
to the transport of a client from the front, behind what waited for the client before, and the rest waits. A
transport that works is given as much as it has room for, and keeps its client.

1. `Transport.works_write`, `Transport.works_flushIfReady`: what a call leaves of the room.
2. `gives_drainQueue`: what emptying a queue brings to the transport.
3. `Seat.Hears.deliver`, `Seat.hears_foldl`: one event more, and a row of events, for one client.
4. `Live.hears_foldl`: a row of broadcasts, for all clients of a registry.
-/

namespace Sentinel

namespace Transport

variable {t t' : Transport} {frame : String}

/-- How many frames a transport is ready for, where that is bounded. -/
def room : Transport → Option Nat
  | recorder r => if r.ready && !r.completed then r.budget else some 0
  | channel ch => some (if ch.senderOpen then ch.room else 0)

/-- No call of the transport fails while it is ready. -/
def Works : Transport → Prop
  | recorder r => r.IsSteady ∧ r.failing = false
  | channel ch => ch.receiverOpen = true

theorem isReady_iff : t.isReady = true ↔ t.room ≠ some 0 := by
  cases t with
  | recorder r =>
    rw [isReady, Recorder.isReady, room]
    cases r.ready <;> cases r.completed <;> cases r.budget <;> simp [Nat.pos_iff_ne_zero]
  | channel ch =>
    rw [isReady, Channel.isReady, room, Channel.room]
    cases ch.senderOpen with
    | false => simp
    | true =>
      simp
      omega

theorem works_write (h : t.write frame = .ok t') :
    t'.room = t.room.map (· - 1) ∧ (t.Works → t'.Works) := by
  cases t with
  | recorder r =>
    rw [write, Recorder.write] at h
    split at h
    · cases h
    · split at h
      · cases h
      · obtain rfl := Except.ok.inj h
        constructor
        · rw [room, room]
          split <;> rfl
        · rintro ⟨hsteady, hworks⟩
          exact ⟨⟨hsteady.1, congrArg (Option.map (· - 1)) hsteady.2⟩, hworks⟩
  | channel ch =>
    rw [write, Channel.write] at h
    split at h
    · cases h
    · split at h
      · obtain rfl := Except.ok.inj h
        refine ⟨?_, id⟩
        rw [room, room, Channel.room, Channel.room, List.length_append, List.length_singleton, Option.map_some]
        split
        · rw [Nat.sub_sub]
        · rfl
      · cases h

theorem exists_write (hworks : t.Works) (hready : t.isReady = true) (frame : String) :
    ∃ t', t.write frame = .ok t' := by
  cases t with
  | recorder r =>
    have hopen : r.completed = false := by
      simp only [isReady, Recorder.isReady, Bool.and_eq_true, Bool.not_eq_true'] at hready
      exact hready.2
    exact ⟨_, write_of_works hworks.1 hopen hworks.2 frame⟩
  | channel ch =>
    simp only [isReady, Channel.isReady, Bool.and_eq_true, decide_eq_true_eq] at hready
    have hopen : ¬(!ch.senderOpen || !ch.receiverOpen) = true := by
      rw [hready.1, show ch.receiverOpen = true from hworks]
      decide
    refine ⟨.channel { ch with buffer := ch.buffer ++ [frame] }, ?_⟩
    rw [write, Channel.write, if_neg hopen, if_pos hready.2]
    rfl

theorem works_flushIfReady (h : t.flushIfReady = .ok t') : t'.room = t.room ∧ (t.Works → t'.Works) := by
  cases t with
  | recorder r =>
    rw [flushIfReady] at h
    split at h
    · rw [flush, Recorder.flush] at h
      split at h
      · cases h
      · obtain rfl := Except.ok.inj h
        exact ⟨rfl, id⟩
    · obtain rfl := Except.ok.inj h
      exact ⟨rfl, id⟩
  | channel ch =>
    rw [flushIfReady_channel] at h
    obtain rfl := Except.ok.inj h
    exact ⟨rfl, id⟩

theorem exists_flush (hworks : t.Works) : ∃ t', t.flushIfReady = .ok t' := by
  cases t with
  | recorder r =>
    obtain ⟨n, hn⟩ := flushIfReady_recorder hworks.1
    exact ⟨_, hn⟩
  | channel ch => exact ⟨_, flushIfReady_channel ch⟩

theorem frames_complete_release (t : Transport) : t.release.complete.frames = t.frames := by
  cases t <;> rfl

end Transport

/-- What a transport of some room is like when it was given some frames, and whether it works still. -/
structure Transport.Took (t : Transport) (count : Nat) (t' : Transport) : Prop where
  works : t'.Works
  room : t'.room = t.room.map (· - count)
  bound : ∀ n ∈ t.room, count ≤ n

theorem Transport.Took.nothing {t t' : Transport} (h : t'.Works) (hroom : t'.room = t.room) : t.Took 0 t' :=
  ⟨h, hroom.trans Option.map_id'.symm, fun n _ => Nat.zero_le n⟩

theorem Transport.Took.trans {t t' t'' : Transport} {m n : Nat} (h : t.Took m t') (h' : t'.Took n t'') :
    t.Took (m + n) t'' := by
  obtain ⟨-, hroom, hbound⟩ := h
  obtain ⟨hworks', hroom', hbound'⟩ := h'
  refine ⟨hworks', ?_, fun k hk => ?_⟩
  · rw [hroom', hroom, Option.map_map]
    congr 1
    funext k
    exact Nat.sub_sub k m n
  · have hm := hbound k hk
    rw [hroom, Option.mem_def.mp hk, Option.map_some] at hbound'
    have hn := hbound' (k - m) rfl
    omega

/-- A transport that is written to while it is ready has room for one frame less. -/
theorem Transport.took_pushed {t t₁ t₂ : Transport} {frame : String} (hready : t.isReady = true)
    (hwrite : t.write frame = .ok t₁) (hflush : t₁.flushIfReady = .ok t₂) (hworks : t.Works) :
    t.Took 1 t₂ := by
  obtain ⟨hroom₁, hkeeps₁⟩ := works_write hwrite
  obtain ⟨hroom₂, hkeeps₂⟩ := works_flushIfReady hflush
  refine ⟨hkeeps₂ (hkeeps₁ hworks), hroom₂.trans hroom₁, fun n hn => Nat.pos_of_ne_zero ?_⟩
  rintro rfl
  exact isReady_iff.mp hready hn

/-- What comes of emptying a queue: events from its front are given to the transport, and the others are left
if no call fails. If the transport works none does, and all are given that there is room for. -/
structure Drained.Gives (d : Drained) (t : Transport) (q given rest : List StreamEvent) : Prop where
  split : q = given ++ rest
  frames : d.transport.frames = t.frames ++ given.map StreamEvent.wire
  left : d.failure = none → d.queue = rest
  works : t.Works → d.failure = none ∧ t.Took given.length d.transport ∧
    (rest = [] ∨ d.transport.room = some 0)

theorem Drained.Gives.cons {d : Drained} {t t' : Transport} {e : StreamEvent}
    {q given rest : List StreamEvent} (hframes : t'.frames = t.frames ++ [e.wire])
    (htook : t.Works → t.Took 1 t') (calls : List TransportCall) (h : d.Gives t' q given rest) :
    (d.after calls).Gives t (e :: q) (e :: given) rest := by
  refine ⟨congrArg (e :: ·) h.split, ?_, h.left, fun hworks => ?_⟩
  · show d.transport.frames = t.frames ++ ([e.wire] ++ given.map StreamEvent.wire)
    rw [h.frames, hframes, List.append_assoc]
  · have hone := htook hworks
    obtain ⟨hnone, hrest, hfull⟩ := h.works hone.works
    refine ⟨hnone, ?_, hfull⟩
    rw [List.length_cons, Nat.add_comm]
    exact hone.trans hrest

theorem gives_drainQueue (t : Transport) (q : List StreamEvent) :
    ∃ given rest, (drainQueue t q).Gives t q given rest := by
  -- By induction on the queue, for any transport: each write leaves another one behind it.
  induction q generalizing t with
  | nil =>
    rw [drainQueue]
    cases hflush : t.flushIfReady with
    | error f =>
      refine ⟨[], [], rfl, (List.append_nil _).symm, fun _ => rfl, fun hworks => ?_⟩
      obtain ⟨t', hfine⟩ := Transport.exists_flush hworks
      cases hflush.symm.trans hfine
    | ok t' =>
      obtain ⟨hframes, -⟩ := Transport.frames_flushIfReady hflush
      obtain ⟨hroom, hkeeps⟩ := Transport.works_flushIfReady hflush
      refine ⟨[], [], rfl, hframes.trans (List.append_nil _).symm, fun _ => rfl, fun hworks => ?_⟩
      exact ⟨rfl, .nothing (hkeeps hworks) hroom, .inl rfl⟩
  | cons e es ih =>
    rw [drainQueue]
    split
    · next hready =>
      cases hwrite : t.write e.wire with
      | error f =>
        -- A transport that works does not come here: a call that finds it ready is fine.
        refine ⟨[], e :: es, rfl, (List.append_nil _).symm, fun hnone => ?_, fun hworks => ?_⟩
        · cases hnone
        · obtain ⟨t', hfine⟩ := Transport.exists_write hworks hready e.wire
          cases hwrite.symm.trans hfine
      | ok t₁ =>
        have hframes₁ := Transport.frames_write hwrite
        dsimp only
        cases hflush : t₁.flushIfReady with
        | error f =>
          refine ⟨[e], es, rfl, hframes₁, fun hnone => ?_, fun hworks => ?_⟩
          · cases hnone
          · obtain ⟨t', hfine⟩ := Transport.exists_flush ((Transport.works_write hwrite).2 hworks)
            cases hflush.symm.trans hfine
        | ok t₂ =>
          obtain ⟨hframes₂, -⟩ := Transport.frames_flushIfReady hflush
          obtain ⟨given, rest, hrest⟩ := ih t₂
          refine ⟨e :: given, rest, hrest.cons (hframes₂.trans hframes₁) ?_ _⟩
          exact Transport.took_pushed hready hwrite hflush
    · next hstalled =>
      have hroom : t.room = some 0 := by
        by_contra hroom
        exact hstalled (Transport.isReady_iff.mpr hroom)
      refine ⟨[], e :: es, rfl, (List.append_nil _).symm, fun _ => rfl, fun hworks => ?_⟩
      exact ⟨rfl, .nothing hworks rfl, .inr hroom⟩

namespace Seat

variable {s s' : Seat} {c : Client} {es given rest : List StreamEvent}

/-- What some events come to that are broadcast to a client. Of those that waited for it and the new ones
behind them, some from the front are given to its transport, and the others wait while it is registered. If
the transport works the client stays, and there is nothing left to give or no room left to give it to. -/
structure Hears (c : Client) (es given rest : List StreamEvent) (s s' : Seat) : Prop where
  split : c.queue ++ es = given ++ rest
  frames : s'.transport.frames = s.transport.frames ++ given.map StreamEvent.wire
  waiting : ∀ c', s'.client? = some c' → c'.queue = rest
  works : s.transport.Works → s'.client? ≠ none ∧ s.transport.Took given.length s'.transport ∧
    (es ≠ [] → rest = [] ∨ s'.transport.room = some 0)

/-- A transport that works is given as many events as it has room for, or all. -/
theorem Hears.given_eq (h : Hears c es given rest s s') (hworks : s.transport.Works) (hes : es ≠ []) :
    given = (c.queue ++ es).take (s.transport.room.getD (c.queue ++ es).length) := by
  obtain ⟨-, htook, hfull⟩ := h.works hworks
  have hfull := hfull hes
  rw [htook.room] at hfull
  have hall : rest = [] → given = c.queue ++ es := by
    rintro rfl
    rw [h.split, List.append_nil]
  cases hroom : s.transport.room with
  | none =>
    rw [hroom] at hfull
    rw [Option.getD_none, List.take_length]
    exact hall (hfull.resolve_right nofun)
  | some n =>
    have hbound : given.length ≤ n := htook.bound n hroom
    rw [Option.getD_some]
    rcases hfull with hnil | hnone
    · rw [← hall hnil, List.take_of_length_le hbound]
    · have hlength : n ≤ given.length := by
        rw [hroom, Option.map_some, Option.some.injEq] at hnone
        exact Nat.le_of_sub_eq_zero hnone
      rw [h.split, ← Nat.le_antisymm hbound hlength, List.take_left]

theorem hears_nil (hc : s.client? = some c) : Hears c [] [] c.queue s s := by
  refine ⟨List.append_nil _, (List.append_nil _).symm, fun c' hc' => ?_, fun hworks => ⟨?_, ?_⟩⟩
  · rw [Option.some.inj (hc.symm.trans hc')]
  · rw [hc]
    exact Option.some_ne_none c
  · exact ⟨.nothing hworks rfl, fun hnil => absurd rfl hnil⟩

theorem transport?_deliver (e : StreamEvent) (hs : s.transport? ≠ none) : (s.deliver e).transport? ≠ none := by
  obtain ⟨t, ht⟩ := Option.ne_none_iff_exists'.mp hs
  rw [deliver]
  cases hc : s.client? with
  | none => exact hs
  | some c =>
    dsimp only
    rw [drain]
    generalize drainQueue s.transport (c.queue ++ [e]) = d
    obtain ⟨queue, t', failure, calls⟩ := d
    cases failure <;> simp [modify, remove, hc, ht]

/-- A call that fails takes the client away, and its transport keeps what it was given. -/
theorem drain_of_failure (hs : s.client? ≠ none) (ht : s.transport? ≠ none)
    (hfailure : (drainQueue s.transport c.queue).failure ≠ none) :
    (s.drain c).client? = none ∧
      (s.drain c).transport.frames = (drainQueue s.transport c.queue).transport.frames := by
  obtain ⟨old, hold⟩ := Option.ne_none_iff_exists'.mp hs
  obtain ⟨t, ht⟩ := Option.ne_none_iff_exists'.mp ht
  rw [drain]
  generalize drainQueue s.transport c.queue = d at hfailure ⊢
  obtain ⟨queue, t', failure, calls⟩ := d
  cases failure with
  | none => exact absurd rfl hfailure
  | some f =>
    simp only [modify, remove, hold, ht, Option.map_some, true_and]
    exact t'.frames_complete_release

theorem Hears.deliver (h : Hears c es given rest s s') (ht : s'.transport? ≠ none) (e : StreamEvent) :
    ∃ given' rest', Hears c (es ++ [e]) given' rest' s (s'.deliver e) := by
  have hall : c.queue ++ (es ++ [e]) = given ++ (rest ++ [e]) := by
    rw [← List.append_assoc, h.split, List.append_assoc]
  cases hc : s'.client? with
  | none =>
    have hsame : s'.deliver e = s' := by rw [Seat.deliver, hc]
    rw [hsame]
    refine ⟨given, rest ++ [e], hall, h.frames, fun c' hc' => ?_, fun hworks => ?_⟩
    · cases hc.symm.trans hc'
    · exact absurd hc (h.works hworks).1
  | some c₁ =>
    have hs : s'.client? ≠ none := by
      rw [hc]
      exact Option.some_ne_none c₁
    let waiting : Client := { c₁ with queue := c₁.queue ++ [e] }
    have hdeliver : s'.deliver e = s'.drain waiting := by rw [Seat.deliver, hc]
    have hqueue : waiting.queue = rest ++ [e] := congrArg (· ++ [e]) (h.waiting c₁ hc)
    obtain ⟨given₁, rest₁, hsplit, hframes, hleft, hworks₁⟩ := gives_drainQueue s'.transport waiting.queue
    have hclient := client?_drain (c := waiting) hs
    rw [hdeliver]
    have hsplit : c.queue ++ (es ++ [e]) = given ++ given₁ ++ rest₁ := by
      rw [hall, ← hqueue, hsplit, List.append_assoc]
    have hwritten {t : Transport}
        (hsame : t.frames = (drainQueue s'.transport waiting.queue).transport.frames) :
        t.frames = s.transport.frames ++ (given ++ given₁).map StreamEvent.wire := by
      rw [hsame, hframes, h.frames, List.append_assoc, List.map_append]
    refine ⟨given ++ given₁, rest₁, ?_⟩
    by_cases hnone : (drainQueue s'.transport waiting.queue).failure = none
    · have htransport := transport_drain_of_works ht hnone
      rw [if_pos hnone] at hclient
      refine ⟨hsplit, hwritten (congrArg Transport.frames htransport), fun c' hc' => ?_, fun hworks => ?_⟩
      · rw [← Option.some.inj (hclient.symm.trans hc')]
        exact hleft hnone
      · obtain ⟨-, htook, -⟩ := h.works hworks
        obtain ⟨-, htook₁, hfull⟩ := hworks₁ htook.works
        rw [htransport, List.length_append]
        refine ⟨?_, htook.trans htook₁, fun _ => hfull⟩
        rw [hclient]
        exact Option.some_ne_none _
    · obtain ⟨hgone, hkept⟩ := drain_of_failure hs ht hnone
      refine ⟨hsplit, hwritten hkept, fun c' hc' => ?_, fun hworks => ?_⟩
      · cases hgone.symm.trans hc'
      · exact absurd (hworks₁ (h.works hworks).2.1.works).1 hnone

theorem hears_foldl (hc : s.client? = some c) (ht : s.transport? ≠ none) (es : List StreamEvent) :
    ∃ given rest, Hears c es given rest s (es.foldl (fun s e => s.deliver e) s) := by
  suffices hall : (es.foldl (fun s e => s.deliver e) s).transport? ≠ none ∧
      ∃ given rest, Hears c es given rest s (es.foldl (fun s e => s.deliver e) s) from hall.2
  -- By induction from the last event: what came before has left the client waiting for a rest.
  induction es using List.reverseRecOn with
  | nil => exact ⟨ht, _, _, hears_nil hc⟩
  | append_singleton es e ih =>
    obtain ⟨hsome, given, rest, hears⟩ := ih
    rw [List.foldl_append]
    exact ⟨transport?_deliver e hsome, hears.deliver hsome e⟩

end Seat

namespace Live

variable {l l' : Live} {k : ClientId} {u : TransportId}

/-- What the registry itself says of broadcasts. -/
theorem broadcasts_deliver (l : Live) (e : StreamEvent) (id : ClientId) :
    (l.deliver e id).registry.broadcasts = l.registry.broadcasts := by
  have hremove (l : Live) (id : ClientId) (reason : ClosedReason) :
      (l.remove id reason).2.registry.broadcasts = l.registry.broadcasts := by
    rw [remove]
    cases l.registry.find? id <;> rfl
  rw [deliver]
  cases l.registry.find? id with
  | none => rfl
  | some c =>
    dsimp only
    rw [drain]
    cases (drainQueue (l.connections.get c.transport) (c.queue ++ [e])).failure with
    | none => rfl
    | some f => exact hremove _ _ _

theorem broadcasts_broadcast (l : Live) (e : StreamEvent) :
    (l.broadcast e).2.registry.broadcasts = l.registry.broadcasts + 1 := by
  have hall (ids : List ClientId) (l : Live) :
      (ids.foldl (deliver e) l).registry.broadcasts = l.registry.broadcasts := by
    induction ids generalizing l with
    | nil => rfl
    | cons id ids ih => rw [List.foldl_cons, ih, broadcasts_deliver]
  exact hall _ _

/-- What a row of broadcasts comes to. The registry counts each of them, and every client with a transport
of its own hears them. -/
structure Hears (es : List StreamEvent) (l l' : Live) : Prop where
  counted : l'.registry.broadcasts = l.registry.broadcasts + es.length
  heard : ∀ c ∈ l.registry.clients, l.Alone c.id c.transport → ∃ given rest,
    Seat.Hears c es given rest (l.place c.id c.transport) (l'.place c.id c.transport)

theorem place_foldl_broadcast (h : l.Alone k u) (es : List StreamEvent) :
    (es.foldl (fun l e => l.step (.broadcast e)) l).place k u =
      es.foldl (fun s e => s.deliver e) (l.place k u) := by
  induction es generalizing l with
  | nil => rfl
  | cons e es ih =>
    obtain ⟨hkeeps, hplace⟩ := place_broadcast h e
    have hrest := ih (h.keeps hkeeps)
    rw [hplace] at hrest
    exact hrest

theorem hears_foldl (l : Live) (es : List StreamEvent) :
    Hears es l (es.foldl (fun l e => l.step (.broadcast e)) l) := by
  constructor
  · induction es generalizing l with
    | nil => rfl
    | cons e es ih =>
      have hone : (l.step (.broadcast e)).registry.broadcasts = _ := broadcasts_broadcast l e
      rw [List.foldl_cons, ih, hone, List.length_cons, Nat.add_right_comm, Nat.add_assoc]
  · intro c hc halone
    have hclient : (l.place c.id c.transport).client? = some c := by
      have hsame (d : Client) (hd : d ∈ l.registry.clients) (hid : d.id = c.id) : d = c :=
        List.inj_on_of_nodup_map halone.proper.distinct hd hc hid
      have hfound : (l.place c.id c.transport).client? ≠ none :=
        fun hnone => client?_place_eq_none_iff.mp hnone (List.mem_map_of_mem hc)
      obtain ⟨d, hd⟩ := Option.ne_none_iff_exists'.mp hfound
      rw [hd, hsame d (List.mem_of_find?_eq_some hd) (Registry.id_of_find? hd)]
    have htransport : (l.place c.id c.transport).transport? ≠ none := by
      have hgiven := halone.proper.given c hc
      show l.connections.transports[c.transport]? ≠ none
      rw [List.getElem?_eq_getElem hgiven]
      exact Option.some_ne_none _
    rw [place_foldl_broadcast halone]
    exact Seat.hears_foldl hclient htransport es

end Live

end Sentinel
