import Sentinel.Proofs.Streaming.Life
/-!
# Removal of streaming clients

Whatever happens to a registry, in any order and however often, a client is removed once: the audit
trail has one entry on its end, with the reason of the operation that removed it, and no operation has
any effect on it afterwards. Clients may share transports, and transports may fail at any call.

1. `closes_remove`, `closes_broadcastIn`, `closes_closeAllIn`: what an operation takes from the clients it
   adds to the audit trail.
2. `balances_history`: registrations are the ends and the clients that are left.
3. `isOpen_or_isClosed`: a client that was registered is open, or was taken away by one operation.
4. `removed_once`: all of it together.
-/

namespace Sentinel

namespace Account

variable {k : ClientId} {op : ClientOperation} {a : Account} {es : List StreamEvent}

theorem count_complete_of_isFine {calls : List TransportCall} (h : ∀ call ∈ calls, call.IsFine) :
    calls.count .complete = 0 := List.count_eq_zero.mpr fun hmem => h .complete hmem

theorem Farewell.count_le {last : List TransportCall} (h : Farewell k op last) :
    last.count .complete ≤ 1 := by
  cases h with
  | removed hop => exact Nat.zero_le 1
  | shut hop => exact Nat.le_refl 1
  | @failed call hop hfails =>
    have hcall : call ≠ .complete := by
      rintro rfl
      exact hfails
    rw [List.count_cons_of_ne hcall]
    exact Nat.le_refl 1

theorem IsClosed.count_le (h : a.IsClosed k op es) : a.calls.count .complete ≤ 1 := by
  obtain ⟨fine, last, hcalls, hfine, hlast⟩ := h.calls
  rw [hcalls, List.count_append, count_complete_of_isFine hfine, Nat.zero_add]
  exact hlast.count_le

/-- A transport is ended with the service, or because the call before met with an error. -/
theorem IsClosed.of_mem_complete (h : a.IsClosed k op es) (hmem : .complete ∈ a.calls) :
    (∃ order, op = .closeAll order) ∨
      ∃ calls call, call.Fails ∧ a.calls = calls ++ [call, .complete] := by
  obtain ⟨fine, last, hcalls, hfine, hlast⟩ := h.calls
  cases hlast with
  | removed hop =>
    rw [hcalls, List.append_nil] at hmem
    exact absurd (hfine .complete hmem) id
  | shut hop => exact .inl ⟨_, hop⟩
  | failed hop hfails => exact .inr ⟨fine, _, hfails, hcalls⟩

end Account

namespace Live

variable {l l' l'' : Live} {k : ClientId}

theorem Registry.length_erase {r : Registry} {id : ClientId} (hdistinct : (r.clients.map (·.id)).Nodup)
    (hmem : id ∈ r.clients.map (·.id)) : (r.erase id).clients.length + 1 = r.clients.length := by
  have herase : (r.erase id).clients.length = ((r.clients.map (·.id)).erase id).length := by
    rw [hdistinct.erase_eq_filter, List.filter_map, List.length_map]
    exact congrArg List.length (List.filter_congr fun d hd => decide_not)
  have hpos := List.length_pos_of_mem hmem
  rw [List.length_map] at hpos
  rw [herase, List.length_erase_of_mem hmem, List.length_map]
  omega

/-- A client that is registered has a transport, and its number is no other one's. -/
theorem IsProper.sits (h : l.IsProper) {c : Client} (hc : c ∈ l.registry.clients) :
    l.Sits c.id c.transport := by
  intro d hd hid
  rw [List.inj_on_of_nodup_map h.distinct hd hc hid]

/-! ## Ends and registrations in the audit trail -/

/-- From one state to another, as many clients go as there are entries more in the audit trail, which
are all on the end of a client. -/
def Closes (l l' : Live) : Prop :=
  ∃ es : Trail, l'.trail = l.trail ++ es ∧ (∀ e ∈ es, e.kind = "client_closed") ∧
    l'.registry.clients.length + es.length = l.registry.clients.length

namespace Closes

theorem of_same (htrail : l'.trail = l.trail)
    (hclients : l'.registry.clients.length = l.registry.clients.length) : Closes l l' :=
  ⟨[], by rw [htrail, List.append_nil], fun e he => absurd he List.not_mem_nil, hclients⟩

theorem trans (h : Closes l l') (h' : Closes l' l'') : Closes l l'' := by
  obtain ⟨es, htrail, hkind, hlength⟩ := h
  obtain ⟨es', htrail', hkind', hlength'⟩ := h'
  refine ⟨es ++ es', ?_, fun e he => (List.mem_append.mp he).elim (hkind e) (hkind' e), ?_⟩
  · rw [htrail', htrail, List.append_assoc]
  · rw [List.length_append]
    omega

end Closes

theorem closes_remove (h : l.IsProper) (id : ClientId) (reason : ClosedReason) :
    Closes l (l.remove id reason).2 := by
  rw [remove]
  cases hc : l.registry.find? id with
  | none => exact .of_same rfl rfl
  | some c =>
    have hmem : id ∈ l.registry.clients.map (·.id) :=
      List.mem_map.mpr ⟨c, List.mem_of_find?_eq_some hc, Registry.id_of_find? hc⟩
    refine ⟨[.clientClosed id reason c.queue.length], rfl, ?_, Registry.length_erase h.distinct hmem⟩
    intro e he
    rw [List.mem_singleton.mp he]
    rfl

theorem closes_drain (h : l.IsProper) {c : Client} (hc : l.Sits c.id c.transport) :
    Closes l (l.drain c) := by
  rw [drain]
  generalize drainQueue (l.connections.get c.transport) c.queue = d
  obtain ⟨queue, t, failure, calls⟩ := d
  let c' : Client := { c with queue, state := if queue.isEmpty && failure.isNone then .idle else .draining }
  let drained : Live :=
    { l with
      registry := l.registry.update c'
      connections := (l.connections.modify c.transport fun _ => t).note c.id calls }
  have hsame : Closes l drained := .of_same rfl (List.length_map _)
  cases failure with
  | none => exact hsame
  | some e =>
    have hupdate := acts_update (l := l) (c := c') hc c.transport
    have hkeeps := (hupdate.andThen (acts_modify _ c.id c.transport fun _ => t)).andThen
      (acts_note _ c.id c.transport calls)
    exact hsame.trans (closes_remove (h.keeps hkeeps.toKeeps) c.id .error)

theorem closes_onWritable (h : l.IsProper) (id : ClientId) : Closes l (l.onWritable id) := by
  rw [onWritable]
  cases hc : l.registry.find? id with
  | none => exact .of_same rfl rfl
  | some c => exact closes_drain h (h.sits (List.mem_of_find?_eq_some hc))

theorem closes_deliver (h : l.IsProper) (e : StreamEvent) (id : ClientId) :
    Closes l (l.deliver e id) := by
  rw [deliver]
  cases hc : l.registry.find? id with
  | none => exact .of_same rfl rfl
  | some c =>
    have hsits : l.Sits c.id c.transport := h.sits (List.mem_of_find?_eq_some hc)
    dsimp only
    exact closes_drain h hsits

theorem closes_foldl {α : Type} {f : Live → α → Live}
    (hf : ∀ (l : Live) (x : α), l.IsProper → (f l x).IsProper ∧ Closes l (f l x)) (h : l.IsProper)
    (xs : List α) : Closes l (xs.foldl f l) := by
  induction xs generalizing l with
  | nil => exact .of_same rfl rfl
  | cons x xs ih =>
    obtain ⟨hproper, hcloses⟩ := hf l x h
    exact hcloses.trans (ih hproper)

theorem closes_broadcastIn (h : l.IsProper) (order : VisitingOrder) (e : StreamEvent) :
    Closes l (l.broadcastIn order e).2 := by
  let counted : Live :=
    { l with registry := { l.registry with broadcasts := l.registry.broadcasts + 1 } }
  have hproper : counted.IsProper := ⟨h.distinct, h.known, h.given⟩
  exact closes_foldl (l := counted)
    (fun l id hl => ⟨hl.single fun t ht => acts_deliver ht e, closes_deliver hl e id⟩) hproper
    ((order.visit l.registry.clients).map (·.id))

theorem closes_closeAllIn (h : l.IsProper) (order : VisitingOrder) : Closes l (l.closeAllIn order) := by
  refine closes_foldl (fun l c hl => ?_) h (order.visit l.registry.clients)
  have hremoved : (l.remove c.id .shutdown).2.IsProper := hl.single fun t ht => acts_remove ht .shutdown
  exact ⟨hremoved.keeps (acts_complete _ c).toKeeps, closes_remove hl c.id .shutdown⟩

/-- An operation registers a client, which is an entry of its own in the audit trail, or takes clients
away. -/
theorem registers_or_closes (h : l.IsProper) (op : ClientOperation) :
    ((∃ clients, (l.act op).trail = l.trail ++ [.clientRegistered l.connections.issued clients]) ∧
        (l.act op).registry.clients.length = l.registry.clients.length + 1 ∧
        (l.act op).connections.issued = l.connections.issued + 1) ∨
      Closes l (l.act op) ∧ (l.act op).connections.issued = l.connections.issued := by
  cases op with
  | connect t => exact .inl ⟨⟨_, rfl⟩, List.length_append, rfl⟩
  | join u =>
    rw [act]
    split
    · exact .inl ⟨⟨_, rfl⟩, List.length_append, rfl⟩
    · exact .inr ⟨.of_same rfl rfl, rfl⟩
  | broadcast order e => exact .inr ⟨closes_broadcastIn h order e, (keeps_act h rfl).issued⟩
  | writable id => exact .inr ⟨closes_onWritable h id, (keeps_act h rfl).issued⟩
  | remove id reason => exact .inr ⟨closes_remove h id reason, (keeps_act h rfl).issued⟩
  | closeAll order => exact .inr ⟨closes_closeAllIn h order, (keeps_act h rfl).issued⟩
  | change u f => exact .inr ⟨.of_same rfl rfl, rfl⟩

/-- The audit trail has an entry for each client that was registered, and one for the end of each of them
that is not there any more. -/
structure Balances (l : Live) : Prop where
  left : l.trail.countP (·.kind = "client_registered") =
    l.trail.countP (·.kind = "client_closed") + l.registry.clients.length
  registered : ∀ k clients, .clientRegistered k clients ∈ l.trail → k < l.connections.issued

theorem Balances.act (hb : l.Balances) (h : l.IsProper) (op : ClientOperation) : (l.act op).Balances := by
  rcases registers_or_closes h op with ⟨⟨clients, htrail⟩, hlength, hissued⟩ | ⟨hcloses, hissued⟩
  · refine ⟨?_, fun k n hmem => ?_⟩
    · rw [htrail, hlength, List.countP_append, List.countP_append, hb.left]
      rw [List.countP_singleton, List.countP_singleton, if_pos (by rfl),
        if_neg (by simp [AuditEvent.kind])]
      omega
    · rw [htrail] at hmem
      rw [hissued]
      rcases List.mem_append.mp hmem with hmem | hmem
      · exact Nat.lt_succ_of_lt (hb.registered k n hmem)
      · cases List.mem_singleton.mp hmem
        exact Nat.lt_succ_self _
  · obtain ⟨es, htrail, hkind, hlength⟩ := hcloses
    have hclosed : es.countP (·.kind = "client_closed") = es.length :=
      List.countP_eq_length.mpr fun e he => decide_eq_true (hkind e he)
    have hregistered : es.countP (·.kind = "client_registered") = 0 :=
      List.countP_eq_zero.mpr fun e he => by rw [hkind e he]; decide
    refine ⟨?_, fun k n hmem => ?_⟩
    · rw [htrail, List.countP_append, List.countP_append, hclosed, hregistered, hb.left]
      omega
    · rw [htrail] at hmem
      rw [hissued]
      refine hb.registered k n ((List.mem_append.mp hmem).resolve_right fun hmem => ?_)
      exact absurd (hkind _ hmem) (by simp [AuditEvent.kind])

theorem balances_history (ops : List ClientOperation) : (history ops).Balances := by
  induction ops using List.reverseRecOn with
  | nil => exact ⟨rfl, fun k n hmem => absurd hmem List.not_mem_nil⟩
  | append_singleton ops op ih =>
    rw [history_concat]
    exact ih.act (isProper_history ops) op

/-! ## What becomes of a client -/

/-- A client is registered, and the audit trail says nothing of its end. -/
def Stays (l : Live) (k : ClientId) : Prop := l.registry.find? k ≠ none ∧ (l.account k).closings = []

/-- The operation behind a history takes a client away. The client was there before; it is not there any
more, and the audit trail has one entry on its end, with the reason of the operation; and whatever comes
then, nothing is kept of the client that is not kept at once. -/
structure TakesAway (before : List ClientOperation) (op : ClientOperation) (k : ClientId) : Prop where
  there : (history before).Stays k
  gone : (history (before ++ [op])).registry.find? k = none
  ending : ∃ undelivered, ((history (before ++ [op])).account k).closings = [(op.reason, undelivered)]
  still : ∀ more, (history (before ++ op :: more)).account k = (history (before ++ [op])).account k

variable {ops before : List ClientOperation} {op : ClientOperation} {es es' : List StreamEvent}

theorem stays_of_isOpen (h : (l.account k).IsOpen es) : l.Stays k := by
  obtain ⟨c, hc, -⟩ := h.client
  exact ⟨fun hnone => Option.some_ne_none c (hc.symm.trans hnone), h.closings⟩

theorem IsProper.lt_issued (h : l.IsProper) {c : Client} (hc : l.registry.find? k = some c) :
    k < l.connections.issued := by
  rw [← Registry.id_of_find? hc]
  exact h.known c (List.mem_of_find?_eq_some hc)

theorem takesAway_of_isClosed (hopen : ((history before).account k).IsOpen es)
    (hclosed : ((history (before ++ [op])).account k).IsClosed k op es') : TakesAway before op k := by
  obtain ⟨left, hending, -⟩ := hclosed.closings
  obtain ⟨c, hc, -⟩ := hopen.client
  have hproper := isProper_history before
  have hk : k < (history (before ++ [op])).connections.issued := by
    rw [history_concat]
    exact (step_act hproper (hproper.lt_issued hc) op).2
  refine ⟨stays_of_isOpen hopen, hclosed.client, ⟨left.length, hending⟩, fun more => ?_⟩
  rw [← List.singleton_append (l := more), ← List.append_assoc, history_append (before ++ [op])]
  exact account_foldl_of_gone (isProper_history _) hk hclosed.client more

/-- A client that is known is open, or one operation took it away. -/
theorem isOpen_or_isClosed (ops : List ClientOperation) (hk : k < (history ops).connections.issued) :
    (∃ es, ((history ops).account k).IsOpen es) ∨
      ∃ before op after es, ops = before ++ op :: after ∧ TakesAway before op k ∧
        ((history ops).account k).IsClosed k op es := by
  obtain ⟨before, first, after, rfl, hfirst⟩ := exists_registers ops hk
  rcases life hfirst after with hopen | ⟨middle, op, rest, rfl, hopen, hclosed, hstill⟩
  · exact .inl ⟨_, hopen⟩
  · refine .inr ⟨before ++ first :: middle, op, rest, heard (middle ++ [op]), by simp, ?_, ?_⟩
    · rw [← List.cons_append, ← List.append_assoc] at hclosed
      exact takesAway_of_isClosed hopen hclosed
    · rw [hstill rest]
      exact hclosed

theorem count_complete_history (ops : List ClientOperation) (k : ClientId) :
    ((history ops).connections.callsFor k).count .complete ≤ 1 := by
  show ((history ops).account k).calls.count .complete ≤ 1
  rcases Nat.lt_or_ge k (history ops).connections.issued with hk | hk
  · rcases isOpen_or_isClosed ops hk with ⟨es, hopen⟩ | ⟨_, op, _, es, -, -, hclosed⟩
    · rw [Account.count_complete_of_isFine hopen.calls]
      exact Nat.zero_le 1
    · exact hclosed.count_le
  · rw [account_history_of_le ops k hk]
    exact Nat.zero_le 1

theorem ends_transport (hbefore : .complete ∉ (history ops).connections.callsFor k)
    (hafter : .complete ∈ ((history ops).act op).connections.callsFor k) :
    (∃ order, op = .closeAll order) ∨
      (∀ call ∈ (history ops).connections.callsFor k, call.IsFine) ∧ ∃ calls call, call.Fails ∧
        ((history ops).act op).connections.callsFor k = calls ++ [call, .complete] := by
  -- Only an operation on an open client adds calls; all others leave the account as it is.
  have hproper := isProper_history ops
  have hchanged {a : Account} (hact : ((history ops).act op).account k = a)
      (ha : a.calls = ((history ops).account k).calls) : False := by
    refine hbefore ?_
    have hmem : .complete ∈ (((history ops).act op).account k).calls := hafter
    rw [hact, ha] at hmem
    exact hmem
  rcases Nat.lt_or_ge k (history ops).connections.issued with hk | hk
  · obtain ⟨hstep, -⟩ := step_act hproper hk op
    rcases isOpen_or_isClosed ops hk with ⟨es, hopen⟩ | ⟨_, _, _, es, -, -, hclosed⟩
    · rcases hopen.step hstep with hopen' | hclosed
      · exact absurd (hopen'.calls .complete hafter) id
      · exact (hclosed.of_mem_complete hafter).imp_right fun hfailed => ⟨hopen.calls, hfailed⟩
    · exact (hchanged (hstep.eq_of_gone hclosed.client) rfl).elim
  · have hvacant := account_history_of_le ops k hk
    rcases (account_act hproper op k).1 with hnew | hstep
    · obtain ⟨u, hopened⟩ := hnew.opened
      exact (hchanged hopened rfl).elim
    · exact (hchanged (hstep.eq_of_gone (by rw [hvacant]; rfl)) rfl).elim

theorem remove_eq_true_iff (l : Live) (k : ClientId) (reason : ClosedReason) :
    (l.remove k reason).1 = true ↔ l.registry.find? k ≠ none := by
  rw [remove]
  cases l.registry.find? k <;> simp

theorem takesAway_of_remove {reason : ClosedReason} (h : ((history ops).remove k reason).1 = true) :
    TakesAway ops (.remove k reason) k := by
  have hthere := (remove_eq_true_iff _ _ _).mp h
  have hgone : ((history (ops ++ [.remove k reason])).account k).client? = none := by
    rw [history_concat]
    show (((history ops).remove k reason).2.account k).client? = none
    rw [account_remove, if_pos rfl, Account.remove]
    split
    · assumption
    · rfl
  obtain ⟨c, hc⟩ := Option.ne_none_iff_exists'.mp hthere
  have hproper := isProper_history ops
  have hk := hproper.lt_issued hc
  rcases isOpen_or_isClosed ops hk with ⟨es, hopen⟩ | ⟨_, _, _, _, -, -, hclosed⟩
  · -- A client that was open and is not there any more was taken away in between.
    have hstep := hopen.step (step_act hproper hk (.remove k reason)).1
    rcases hstep with hopen' | hclosed
    · rw [history_concat] at hgone
      exact absurd hgone (stays_of_isOpen hopen').1
    · rw [← history_concat] at hclosed
      exact takesAway_of_isClosed hopen hclosed
  · exact absurd hclosed.client hthere

/-- Clients are removed once. In every history, of any operations in any order, with transports that are
shared or fail anywhere: as many clients are registered as there are registrations in the audit trail
beyond ends; a client that was registered is still there and its end is not in the audit trail, or one
operation of the history took it away; its transport is ended at most once, with the service or when a
write, or to pass on what was written, failed; only an operation that takes a client away removes it
with success; and what is asked of a client that is not there changes nothing at all. -/
theorem removed_once (ops : List ClientOperation) :
    let l := history ops
    l.trail.countP (·.kind = "client_registered") =
        l.trail.countP (·.kind = "client_closed") + l.registry.clients.length ∧
      (∀ k clients, .clientRegistered k clients ∈ l.trail → l.Stays k ∨
        ∃ before op after, ops = before ++ op :: after ∧ TakesAway before op k) ∧
      (∀ k, (l.connections.callsFor k).count .complete ≤ 1) ∧
      (∀ k op, .complete ∉ l.connections.callsFor k →
        .complete ∈ (l.act op).connections.callsFor k → (∃ order, op = .closeAll order) ∨
          (∀ call ∈ l.connections.callsFor k, call.IsFine) ∧ ∃ calls call, call.Fails ∧
            (l.act op).connections.callsFor k = calls ++ [call, .complete]) ∧
      (∀ k reason, ((l.remove k reason).1 = true ↔ l.registry.find? k ≠ none) ∧
        ((l.remove k reason).1 = true → TakesAway ops (.remove k reason) k)) ∧
      ∀ k, l.registry.find? k = none → (∀ reason, l.remove k reason = (false, l)) ∧
        l.onWritable k = l ∧ l.registry.state? k = none ∧ l.registry.pending? k = none := by
  intro l
  have hbalances := balances_history ops
  refine ⟨hbalances.left, fun k clients hmem => ?_, count_complete_history ops,
    fun k op => ends_transport, fun k reason => ⟨remove_eq_true_iff l k reason, takesAway_of_remove⟩,
    fun k hnone => ?_⟩
  · rcases isOpen_or_isClosed ops (hbalances.registered k clients hmem) with
      ⟨es, hopen⟩ | ⟨before, op, after, es, hsplit, htakes, -⟩
    · exact .inl (stays_of_isOpen hopen)
    · exact .inr ⟨before, op, after, hsplit, htakes⟩
  · refine ⟨fun reason => ?_, ?_, ?_, ?_⟩
    · rw [remove, hnone]
    · rw [onWritable, hnone]
    · rw [Registry.state?, hnone]
      rfl
    · rw [Registry.pending?, hnone]
      rfl

/-- Two clients on a transport that takes one frame, and one on a transport of its own. The second client
fails, the first one is removed, and the second one would be removed once more. -/
def paired : List ClientOperation :=
  [.connect (.recorder { failsAfter := some 1 }), .join 0, .connect (.recorder {}),
    .broadcast .bySeniority ⟨"a", "1"⟩, .remove 0 .timeout, .remove 1 .completed]

/-- The second client went for an error, once, and cannot be removed again. -/
theorem removed_once_paired :
    (history paired).trail.countP (·.kind = "client_registered") = 2 + 1 ∧
      (history paired).Stays 2 ∧
      (∃ before op after, paired = before ++ op :: after ∧ op.reason = .error ∧
        TakesAway before op 1) ∧
      ((history paired).connections.callsFor 1).count .complete ≤ 1 ∧
      (history paired).remove 1 .completed = (false, history paired) := by
  obtain ⟨hcount, hfate, hcomplete, -, -, hlater⟩ := removed_once paired
  have hclosed : (history paired).trail.countP (·.kind = "client_closed") = 2 := by decide +kernel
  have hleft : (history paired).registry.clients.length = 1 := by decide +kernel
  have htrail : (history paired).trail.take 3 =
      [.clientRegistered 0 1, .clientRegistered 1 2, .clientRegistered 2 3] := by decide +kernel
  have hmem (k : ClientId) (hk : .clientRegistered k (k + 1) ∈ (history paired).trail.take 3) :
      .clientRegistered k (k + 1) ∈ (history paired).trail := List.mem_of_mem_take hk
  have hgone : (history paired).registry.find? 1 = none := by decide +kernel
  have hthere : (history paired).registry.find? 2 ≠ none := by decide +kernel
  have hending : ((history paired).account 1).closings = [(.error, 0)] := by decide +kernel
  refine ⟨by rw [hcount, hclosed, hleft], ?_, ?_, hcomplete 1, (hlater 1 hgone).1 .completed⟩
  · refine (hfate 2 3 (hmem 2 (by rw [htrail]; simp))).resolve_right ?_
    rintro ⟨before, op, after, hsplit, htakes⟩
    have hsame := htakes.still after
    rw [← hsplit] at hsame
    exact hthere ((congrArg Account.client? hsame).trans htakes.gone)
  · rcases hfate 1 2 (hmem 1 (by rw [htrail]; simp)) with hstays | ⟨before, op, after, hsplit, htakes⟩
    · exact absurd hgone hstays.1
    · refine ⟨before, op, after, hsplit, ?_, htakes⟩
      obtain ⟨undelivered, hreason⟩ := htakes.ending
      have hsame := htakes.still after
      rw [← hsplit] at hsame
      have hreasons := (congrArg Account.closings hsame).symm.trans hending
      rw [hreason] at hreasons
      exact (Prod.mk.inj (List.cons.inj hreasons).1).1

end Live

end Sentinel
