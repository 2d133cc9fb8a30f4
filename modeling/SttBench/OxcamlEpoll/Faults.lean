import SttBench.OxcamlEpoll.Answers

/-! # ocaml-oxcaml-epoll: a faulty inference server -/

namespace SttBench.OxcamlEpoll

open Ascii Conn List
open SttBench.Wire (silenceAnswer lengthDelimited_silenceAnswer)

variable {g : Setup} {s s' : Server} {idx id : ℕ} {slot slot' : Slot} {io : Io}

/-! ## Responses out of bounds -/

lemma inferResponseOfBytes_total {b : Bytes} {pos : ℕ} {len : ℤ} (d : Decoders) (hlen : 0 ≤ len)
    (hb : pos + len ≤ b.length) : ∃ r, inferResponseOfBytes d b pos len = .ok r := by
  have hsub : ∃ body, subString b pos len = .ok body := by
    refine ⟨_, if_neg ?_⟩
    omega
  obtain ⟨body, hbody⟩ := hsub
  unfold inferResponseOfBytes
  split
  · exact ⟨_, rfl⟩
  · rw [hbody]
    exact ⟨_, rfl⟩

def delivered : List ReadResult → Bytes
  | .Intr :: rs => delivered rs
  | .Data (b :: chunk) :: rs => b :: chunk ++ delivered rs
  | _ => []

lemma delivered_data (b : Bytes) : delivered [.Data b] = b := by
  cases b with
  | nil => rfl
  | cons x b => simp [delivered]

lemma Slot.recvLoop_delivered (slot : Slot) (reads : List ReadResult) :
    (slot.recvLoop reads).1.resp <+: slot.resp ++ delivered reads := by
  fun_induction recvLoop slot reads with
  | case1 | case2 | case4 | case5 => exact prefix_append ..
  | case3 slot rs ih => exact ih
  | case6 slot chunk rs hne slot' _ ih =>
    obtain ⟨b, chunk, rfl⟩ := exists_cons_of_ne_nil fun hnil => hne (hnil ▸ rfl)
    rw [delivered, ← append_assoc]
    exact ih
  | case7 slot chunk rs hne slot' p _ =>
    obtain ⟨b, chunk, rfl⟩ := exists_cons_of_ne_nil fun hnil => hne (hnil ▸ rfl)
    rw [delivered, ← append_assoc]
    exact prefix_append ..

theorem responses_bounded_iff {b : Bytes} (hb : b.length < 2 ^ 62) :
    ((∀ p, HttpResponse.parse b = some p → 0 ≤ p.bodyLen ∧ p.bodyPos + p.bodyLen ≤ b.length) ∧
      ∀ (g : Setup) (s : Server) (idx : ℕ) (slot : Slot) (io : Io), (server g).Reachable s →
        s.slots[idx]? = some slot → slot.state = .Receiving →
        slot.resp ++ delivered io.reads = b → ∃ s', s.driveSlot g idx slot io = .ok s') ↔
      HttpResponse.LengthFits b := by
  constructor
  · rintro ⟨hbounds, -⟩
    exact (HttpResponse.parse_bounded_iff hb).mp hbounds
  · intro hfits
    refine ⟨(HttpResponse.parse_bounded_iff hb).mpr hfits, ?_⟩
    intro g s idx slot io hr hslot hstate hreceived
    have h := (server_inductive g).reachable hr
    have howner : slot.owner ≠ none := fun hnone => by
      rw [(h.pool.idle_iff slot (mem_of_getElem? hslot)).mpr hnone] at hstate
      cases hstate
    obtain ⟨id, howner⟩ := Option.ne_none_iff_exists'.mp howner
    rcases Server.driveSlot_cases h hslot howner io with ⟨s', hs', -⟩ | ⟨e, p, -, hp, -, hdecode⟩
    · exact ⟨s', hs'⟩
    · -- the buffer of the slot is a prefix of what was received, so its length fits as well
      obtain ⟨rest, hrest⟩ := hreceived ▸ slot.recvLoop_delivered io.reads
      have hlen : (slot.recvLoop io.reads).1.resp.length < 2 ^ 62 := by
        rw [← hrest, length_append] at hb
        omega
      obtain ⟨hpos, hend⟩ := (HttpResponse.parse_bounded_iff hlen).mpr
        (HttpResponse.LengthFits.of_append (hrest ▸ hfits)) p (Slot.recvLoop_complete hp)
      obtain ⟨r, hr⟩ := inferResponseOfBytes_total g.decoders hpos hend
      cases hr.symm.trans hdecode

def requested : List Event := oneFrame ++ answered.take 3

theorem responses_bounded_iff_silenceAnswer :
    ∃ s slot s', (server sampleSetup).Reachable s ∧ s.slots[0]? = some slot ∧
      s.driveSlot sampleSetup 0 slot { sampleIo with reads := [.Data silenceAnswer.wire] } =
        .ok s' := by
  obtain ⟨s, hr, slot, hslot, hstate, hresp⟩ : ∃ s, (server sampleSetup).Reachable s ∧
      ∃ slot ∈ s.slots[0]?, slot.state = .Receiving ∧ slot.resp = [] :=
    TransitionSystem.Reachable.exists_of_exec requested (by decide +kernel)
  have hfits : HttpResponse.LengthFits silenceAnswer.wire := by
    intro pos n h
    rw [HttpResponse.announced_wire lengthDelimited_silenceAnswer] at h
    cases h
    decide
  obtain ⟨s', hs'⟩ := ((responses_bounded_iff (b := silenceAnswer.wire) (by decide +kernel)).mpr hfits).2
    sampleSetup s 0 slot { sampleIo with reads := [.Data silenceAnswer.wire] } hr hslot hstate
    (by rw [hresp, delivered_data, nil_append])
  exact ⟨s, slot, s', hr, hslot, hs'⟩

def hugeLength : Bytes := bytes "HTTP/1.1 200 OK\r\nContent-Length: 4611686018427387904\r\n\r\n"

theorem hugeLength_raises :
    ∃ s slot p, (server sampleSetup).Reachable s ∧ s.slots[0]? = some slot ∧
      slot.state = .Receiving ∧ slot.resp ++ delivered [.Data hugeLength] = hugeLength ∧
      HttpResponse.parse hugeLength = some p ∧ p.bodyLen < 0 ∧
      s.driveSlot sampleSetup 0 slot { sampleIo with reads := [.Data hugeLength] } =
        .error (.InvalidArgument "String.sub / Bytes.sub") := by
  obtain ⟨s, hr, slot, hslot, hstate, hresp, hdrive⟩ : ∃ s, (server sampleSetup).Reachable s ∧
      ∃ slot ∈ s.slots[0]?, slot.state = .Receiving ∧ slot.resp = [] ∧
        (s.driveSlot sampleSetup 0 slot { sampleIo with reads := [.Data hugeLength] }).map
          (fun _ => ()) = .error (.InvalidArgument "String.sub / Bytes.sub") :=
    TransitionSystem.Reachable.exists_of_exec requested (by decide +kernel)
  obtain ⟨p, hp, hneg⟩ : ∃ p ∈ HttpResponse.parse hugeLength, p.bodyLen < 0 := by
    decide +kernel
  refine ⟨s, slot, p, hr, hslot, hstate, ?_, hp, hneg, ?_⟩
  · rw [hresp, delivered_data, nil_append]
  · exact eq_error_of_map hdrive

/-! ## Connections that fail -/

structure Ended (s : Server) (idx id : ℕ) (result : InferResult) (log : List Attempt) (t : Server) :
    Prop where
  slot : ∃ slot' : Slot, t.slots[idx]? = some slot' ∧ slot'.owner = none
  finished : t.finished = s.finished ++ [⟨idx, id, result, log⟩]

lemma Server.slotDone_ended (h : Inv g s) (hslot : s.slots[idx]? = some slot)
    (howner : slot.owner = some id) (howner' : slot'.owner = some id) (result : InferResult)
    (clock : Ms) :
    ∃ t, s.slotDone g idx slot' result clock = .ok t ∧ Ended s idx id result slot'.attempts t := by
  obtain ⟨c, p, hc, hp, -⟩ := h.pending_of_owner hslot howner
  exact ⟨_, slotDone_eq h hslot howner howner' hc hp result clock,
    ⟨slot'.freed, slots_setSlot hslot, rfl⟩, rfl⟩

inductive Unharmed (s : Server) (idx id : ℕ) (slot : Slot) (t : Server) : Prop
  | waiting {slot' : Slot} (hstands : s.Stands idx slot' t) (hsame : slot.Same slot')
  | done {result : InferResult} (hended : Ended s idx id result slot.attempts t)

inductive Harmed (s : Server) (idx id : ℕ) (slot : Slot) (io : Io) (t : Server) : Prop
  | redialled {slot' : Slot} (hslot : t.slots[idx]? = some slot') (howner : slot'.owner = some id)
      (hstate : slot'.state = .Connecting) (hfirst : slot.retried = false) (hok : io.connect = .Ok)
      (hlog : slot'.attempts = slot.attempts ++ [.Failed slot.fd])
      (hfinished : t.finished = s.finished)
  | failed {result : InferResult} {raised : List Attempt}
      (hended : Ended s idx id result (slot.attempts ++ .Failed slot.fd :: raised) t)
      (hraised : raised = [] ∨ raised = [.Raised]) (hcause : slot.retried ∨ io.connect ≠ .Ok)

lemma Server.Stands.unharmed {t : Server} (h : s.Stands idx slot' t) (hsame : slot.Same slot')
    (hrest : Unharmed t idx id slot' s') : Unharmed s idx id slot s' := by
  cases hrest with
  | waiting hstands hsame' =>
    exact .waiting ⟨hstands.slot, hstands.finished.trans h.finished⟩ (hsame.trans hsame')
  | done hended => exact .done ⟨hended.slot, h.finished ▸ hsame.attempts ▸ hended.finished⟩

lemma Server.Stands.harmed {t : Server} (h : s.Stands idx slot' t) (hsame : slot.Same slot')
    (hrest : Harmed t idx id slot' io s') : Harmed s idx id slot io s' := by
  cases hrest with
  | redialled hslot howner hstate hfirst hok hlog hfinished =>
    exact .redialled hslot howner hstate (hsame.retried ▸ hfirst) hok
      (hsame.attempts ▸ hsame.fd ▸ hlog) (hfinished.trans h.finished)
  | failed hended hraised hcause =>
    rw [hsame.attempts, hsame.fd] at hended
    exact .failed ⟨hended.slot, h.finished ▸ hended.finished⟩ hraised (hsame.retried ▸ hcause)

namespace Server

theorem retryOrFail_harmed (h : Inv g s) (hslot : s.slots[idx]? = some slot)
    (howner : slot.owner = some id) (message : String) (io : Io) :
    ∃ t, s.retryOrFail g idx slot message io = .ok t ∧ Harmed s idx id slot io t := by
  rw [retryOrFail]
  split_ifs with hretried
  · obtain ⟨t, ht, hended⟩ := slotDone_ended h hslot howner
      (show (slot.log (.Failed slot.fd)).closeFd.owner = some id from howner) (.error _) io.clock
    exact ⟨t, ht, .failed hended (.inl rfl) (.inl hretried)⟩
  · have hfirst : slot.retried = false := Bool.eq_false_of_not_eq_true hretried
    have hmove := h.redial hslot howner hfirst io.connect
    have howner' : (slot.again.connect s.nextSock io.connect).1.owner = some id :=
      (Slot.connect_owner ..).trans howner
    have hraised (err : Error) (hraised : io.connect ≠ .Ok) :
        ∃ t, (s.connectSlot idx slot.again io.connect).slotDone g idx
          (slot.again.connect s.nextSock io.connect).1 (.error err) io.clock = .ok t ∧
            Harmed s idx id slot io t := by
      obtain ⟨t, ht, hended⟩ := slotDone_ended (hmove.inv h) (slots_setSlot hslot) howner' howner'
        (.error err) io.clock
      have hlog : (slot.again.connect s.nextSock io.connect).1.attempts =
          slot.attempts ++ .Failed slot.fd :: [.Raised] := by
        cases hconnect : io.connect with
        | Ok => exact absurd hconnect hraised
        | NoSocket m | Refused m | NotRegistered m => exact append_assoc ..
      rw [hlog] at hended
      exact ⟨t, ht, .failed ⟨hended.slot, hended.finished⟩ (.inr rfl) (.inr hraised)⟩
    cases hconnect : io.connect with
    | Ok =>
      exact ⟨s.connectSlot idx slot.again .Ok, rfl,
        .redialled (slots_setSlot hslot) howner rfl hfirst hconnect rfl rfl⟩
    | NoSocket m | Refused m | NotRegistered m =>
      rw [hconnect] at hraised
      exact hraised _ Connect.noConfusion

theorem respond_unharmed {p : HttpResponse.Parsed} (h : Inv g s) (hslot : s.slots[idx]? = some slot)
    (howner : slot.owner = some id) (hok : s.respond g idx slot p io = .ok s') :
    Unharmed s idx id slot s' := by
  have hdone {slot' : Slot} {result : InferResult} (howner' : slot'.owner = some id)
      (hlog : slot'.attempts = slot.attempts)
      (hok : s.slotDone g idx slot' result io.clock = .ok s') : Unharmed s idx id slot s' := by
    obtain ⟨t, ht, hended⟩ := slotDone_ended h hslot howner howner' result io.clock
    cases hok.symm.trans ht
    exact .done (hlog ▸ hended)
  have hclosed : slot.closeFd.owner = some id := howner
  unfold respond at hok
  dsimp only at hok
  split_ifs at hok
  · exact hdone hclosed rfl hok
  · exact hdone hclosed rfl hok
  · split at hok
    · cases hok
    · exact hdone howner rfl hok
    · exact hdone howner rfl hok

end Server

def breaksOff (resp : Bytes) : List ReadResult → Bool
  | .Intr :: rs => breaksOff resp rs
  | .Fail _ :: _ => true
  | .Data [] :: _ => true
  | .Data chunk :: rs =>
    (HttpResponse.parse (resp ++ chunk)).isNone && breaksOff (resp ++ chunk) rs
  | _ => false

lemma Slot.recvLoop_breaksOff (slot : Slot) (reads : List ReadResult) :
    (∃ message, (slot.recvLoop reads).2 = .Failed message) ↔ breaksOff slot.resp reads := by
  fun_induction recvLoop slot reads with
  | case1 | case2 | case4 | case5 => simp [breaksOff]
  | case3 slot rs ih => rw [ih, breaksOff]
  | case6 slot chunk rs hne slot' hparse ih =>
    obtain ⟨b, chunk, rfl⟩ := exists_cons_of_ne_nil fun hnil => hne (hnil ▸ rfl)
    rw [ih, breaksOff, Bool.and_eq_true, Option.isNone_iff_eq_none]
    · exact (and_iff_right hparse).symm
    · exact hne
  | case7 slot chunk rs hne slot' p hparse =>
    obtain ⟨b, chunk, rfl⟩ := exists_cons_of_ne_nil fun hnil => hne (hnil ▸ rfl)
    have hsome : HttpResponse.parse (slot.resp ++ b :: chunk) = some p := hparse
    simp [breaksOff, hsome]

namespace Server

theorem driveSlot_received (h : Inv g s) (hslot : s.slots[idx]? = some slot)
    (howner : slot.owner = some id) (hfd : slot.fd.isSome) (hstate : slot.state = .Receiving)
    (hok : s.driveSlot g idx slot io = .ok s') :
    if breaksOff slot.resp io.reads then Harmed s idx id slot io s'
    else Unharmed s idx id slot s' := by
  obtain ⟨k, hfd⟩ := Option.isSome_iff_exists.mp hfd
  obtain ⟨t, hmove, hstands, hdrive⟩ := driveSlot_receiving (g := g) hslot howner hfd hstate io
  obtain ⟨hsame, -⟩ := slot.recvLoop_same io.reads
  have howner' := hsame.owner.trans howner
  rw [hdrive] at hok
  have hbreaks := slot.recvLoop_breaksOff io.reads
  cases hloop : (slot.recvLoop io.reads).2 with
  | Failed message =>
    rw [if_pos (hbreaks.mp ⟨message, hloop⟩)]
    rw [hloop] at hok
    obtain ⟨u, hu, hharmed⟩ := retryOrFail_harmed (hmove.inv h) hstands.slot howner' message io
    cases hok.symm.trans hu
    exact hstands.harmed hsame hharmed
  | Wait =>
    rw [if_neg (fun hb => by obtain ⟨m, hm⟩ := hbreaks.mpr hb; cases hloop.symm.trans hm)]
    rw [hloop] at hok
    cases hok
    exact .waiting hstands hsame
  | Complete p =>
    rw [if_neg (fun hb => by obtain ⟨m, hm⟩ := hbreaks.mpr hb; cases hloop.symm.trans hm)]
    rw [hloop] at hok
    exact hstands.unharmed hsame
      (respond_unharmed (hmove.inv h) hstands.slot howner' hok)

theorem driveSlot_counts (h : Inv g s) (hslot : s.slots[idx]? = some slot)
    (howner : slot.owner = some id) (hok : s.driveSlot g idx slot io = .ok s') :
    Unharmed s idx id slot s' ∨ Harmed s idx id slot io s' := by
  cases hfd : slot.fd with
  | none =>
    rw [driveSlot, hfd] at hok
    cases hok
    exact Or.inl (.waiting ⟨hslot, rfl⟩ ⟨rfl, rfl, rfl, rfl, rfl⟩)
  | some k =>
    cases hstate : slot.state with
    | Idle => exact absurd hstate (h.state_ne_idle hslot howner)
    | Connecting =>
      rw [driveSlot, hfd, hstate] at hok
      dsimp only at hok
      split at hok
      · cases hok
        exact Or.inl (.waiting ⟨slots_setSlot hslot, rfl⟩ ⟨rfl, rfl, hfd.symm, rfl, rfl⟩)
      · obtain ⟨t, ht, hharmed⟩ := retryOrFail_harmed h hslot howner _ io
        cases hok.symm.trans ht
        exact Or.inr hharmed
    | Sending =>
      obtain ⟨t, hmove, hstands, hdrive⟩ := driveSlot_sending (g := g) hslot howner hfd hstate io
      obtain ⟨hsame, -⟩ := slot.sendLoop_same io.sends
      rw [hdrive] at hok
      split at hok
      · cases hok
        exact Or.inl (.waiting hstands hsame)
      · obtain ⟨u, hu, hharmed⟩ := retryOrFail_harmed (hmove.inv h) hstands.slot
          (hsame.owner.trans howner) _ io
        cases hok.symm.trans hu
        exact Or.inr (hstands.harmed hsame hharmed)
    | Receiving =>
      have hreceived := driveSlot_received h hslot howner (by simp [hfd]) hstate hok
      split_ifs at hreceived
      · exact Or.inr hreceived
      · exact Or.inl hreceived

end Server

/-! ## One attempt -/

def OneMore (slot : Slot) (log : List Attempt) : Prop :=
  log = slot.attempts ∨ log = slot.attempts ++ [.Failed slot.fd] ∨
    log = slot.attempts ++ [.Failed slot.fd, .Raised]

structure OneAttempt (s : Server) (idx : ℕ) (slot : Slot) (s' : Server) : Prop where
  kept : ∀ slot' : Slot, s'.slots[idx]? = some slot' → slot'.owner.isSome →
    OneMore slot slot'.attempts
  ended : ∀ f ∈ s'.finished.drop s.finished.length, OneMore slot f.attempts

lemma Ended.owner_ne {result : InferResult} {log : List Attempt} (h : Ended s idx id result log s')
    (hslot : s'.slots[idx]? = some slot) : slot.owner = none := by
  obtain ⟨slot', hslot', hnone⟩ := h.slot
  cases hslot'.symm.trans hslot
  exact hnone

lemma Ended.oneAttempt {result : InferResult} {log : List Attempt}
    (h : Ended s idx id result log s') (hlog : OneMore slot log) : OneAttempt s idx slot s' where
  kept slot' hslot howner := by simp [h.owner_ne hslot] at howner
  ended f hf := by
    rw [h.finished, drop_left] at hf
    exact mem_singleton.mp hf ▸ hlog

lemma oneAttempt_of_slot (hslot : s'.slots[idx]? = some slot') (hlog : OneMore slot slot'.attempts)
    (hfinished : s'.finished = s.finished) : OneAttempt s idx slot s' where
  kept slot'' hslot'' _ := Option.some.inj (hslot.symm.trans hslot'') ▸ hlog
  ended := by simp [hfinished]

lemma Unharmed.oneAttempt (h : Unharmed s idx id slot s') : OneAttempt s idx slot s' := by
  cases h with
  | waiting hstands hsame =>
    exact oneAttempt_of_slot hstands.slot (.inl hsame.attempts) hstands.finished
  | done hended => exact hended.oneAttempt (.inl rfl)

lemma Harmed.oneAttempt (h : Harmed s idx id slot io s') : OneAttempt s idx slot s' := by
  cases h with
  | redialled hslot _ _ _ _ hlog hfinished =>
    exact oneAttempt_of_slot hslot (.inr (.inl hlog)) hfinished
  | failed hended hraised _ =>
    refine hended.oneAttempt (.inr ?_)
    rcases hraised with rfl | rfl
    · exact .inl rfl
    · exact .inr rfl

def ReportedTwice (slot : Slot) (events : ℕ) (io : Io) : Prop :=
  slot.fd.isSome ∧ slot.hasReadableResponseEvent events ∧ events &&& (epollerr ||| epollhup) ≠ 0 ∧
    breaksOff slot.resp io.reads ∧ (∀ fd, .Failed fd ∉ slot.attempts) ∧ io.connect = .Ok

lemma ReportedTwice.not_oneAttempt {events : ℕ} (h : Inv g s) (hslot : s.slots[idx]? = some slot)
    (hcan : slot.canHandleEvent) (hok : s.slotEvent g idx events io = .ok s')
    (htwice : ReportedTwice slot events io) : ¬ OneAttempt s idx slot s' := by
  obtain ⟨hfd, hread, herr, hbreaks, hfirst, hconnect⟩ := htwice
  obtain ⟨id, howner⟩ := Slot.owner_of_canHandleEvent hcan
  have hnot : ¬ slot.retried = true := by
    rw [(h.logged hslot howner).retried_iff]
    exact fun ⟨fd, hmem⟩ => hfirst fd hmem
  rw [Server.slotEvent, hslot] at hok
  dsimp only at hok
  rw [if_pos hcan, if_pos hread] at hok
  obtain ⟨t, ht, hrest⟩ := exists_ok_of_bind hok
  have hharmed := Server.driveSlot_received h hslot howner hfd (of_decide_eq_true hread).1 ht
  rw [if_pos hbreaks] at hharmed
  cases hharmed with
  | failed _ _ hcause => exact absurd hconnect (hcause.resolve_left hnot)
  | @redialled slot' hslot' howner' hstate _ _ hlog hfinished =>
    have hcan' : slot'.canHandleEvent := by simp [Slot.canHandleEvent, howner', hstate]
    rw [Server.slotEventRest, hslot'] at hrest
    dsimp only at hrest
    rw [if_pos hcan', if_pos herr] at hrest
    obtain ⟨u, hu, hagain⟩ := Server.retryOrFail_harmed
      ((Server.driveSlot_moves h hslot howner ht).inv h) hslot' howner' "inference socket error" io
    cases hrest.symm.trans hu
    intro hone
    -- the log has two failures more, whether the slot is redialled again or done
    have htwo (rest : List Attempt) : ¬ OneMore slot (slot'.attempts ++ .Failed slot'.fd :: rest) := by
      simp [OneMore, hlog]
    cases hagain with
    | redialled hslot'' howner'' _ _ _ hlog'' _ =>
      have hmore := hone.kept _ hslot'' (by simp [howner''])
      rw [hlog''] at hmore
      exact htwo [] hmore
    | failed hended _ _ =>
      have hnew := hone.ended
      rw [hended.finished, hfinished, drop_left] at hnew
      exact htwo _ (hnew _ (mem_singleton_self _))

lemma Server.driveSlot_readable {events : ℕ} (h : Inv g s) (hslot : s.slots[idx]? = some slot)
    (howner : slot.owner = some id) (hread : slot.hasReadableResponseEvent events)
    (hok : s.driveSlot g idx slot io = .ok s') :
    Unharmed s idx id slot s' ∨
      Harmed s idx id slot io s' ∧ slot.fd.isSome ∧ breaksOff slot.resp io.reads := by
  cases hfd : slot.fd with
  | none =>
    rw [driveSlot, hfd] at hok
    cases hok
    exact Or.inl (.waiting ⟨hslot, rfl⟩ ⟨rfl, rfl, rfl, rfl, rfl⟩)
  | some k =>
    have hreceived := driveSlot_received h hslot howner (by simp [hfd])
      (of_decide_eq_true hread).1 hok
    split_ifs at hreceived with hbreaks
    · exact Or.inr ⟨hreceived, rfl, hbreaks⟩
    · exact Or.inl hreceived

lemma Server.slotEventRest_readable {events : ℕ} (h : Inv g s)
    (hok : s.slotEventRest g idx events true io = .ok s') :
    s' = s ∨ ∃ slot id, s.slots[idx]? = some slot ∧ slot.owner = some id ∧
      events &&& (epollerr ||| epollhup) ≠ 0 ∧ Harmed s idx id slot io s' := by
  rw [slotEventRest] at hok
  split at hok
  · cases hok
    exact Or.inl rfl
  · rename_i slot hslot
    rw [if_pos rfl] at hok
    split_ifs at hok with hcan herr
    · obtain ⟨id, howner⟩ := Slot.owner_of_canHandleEvent hcan
      obtain ⟨t, ht, hharmed⟩ := retryOrFail_harmed h hslot howner "inference socket error" io
      cases hok.symm.trans ht
      exact Or.inr ⟨slot, id, hslot, howner, herr, hharmed⟩
    · cases hok
      exact Or.inl rfl
    · cases hok
      exact Or.inl rfl

theorem oneAttempt_iff {events : ℕ} (h : Inv g s) (hslot : s.slots[idx]? = some slot)
    (hcan : slot.canHandleEvent) (hok : s.slotEvent g idx events io = .ok s') :
    OneAttempt s idx slot s' ↔ ¬ ReportedTwice slot events io := by
  refine ⟨fun hone htwice => htwice.not_oneAttempt h hslot hcan hok hone, fun hnot => ?_⟩
  obtain ⟨id, howner⟩ := Slot.owner_of_canHandleEvent hcan
  rw [Server.slotEvent, hslot] at hok
  dsimp only at hok
  rw [if_pos hcan] at hok
  split_ifs at hok with hread
  · obtain ⟨t, ht, hrest⟩ := exists_ok_of_bind hok
    have hdriven := Server.driveSlot_readable h hslot howner hread ht
    have hinv := (Server.driveSlot_moves h hslot howner ht).inv h
    rcases Server.slotEventRest_readable hinv hrest with rfl | ⟨slot', id', hslot', howner', herr, hagain⟩
    · exact hdriven.elim Unharmed.oneAttempt fun hharmed => hharmed.1.oneAttempt
    · -- the slot still has a request, so it was left as it stood, or was redialled
      rcases hdriven with hun | ⟨hharmed, hfd, hbreaks⟩
      · cases hun with
        | waiting hstands hsame =>
          cases hstands.slot.symm.trans hslot'
          exact (hstands.harmed hsame hagain).oneAttempt
        | done hdone => cases (hdone.owner_ne hslot').symm.trans howner'
      · cases hharmed with
        | failed hfailed _ _ => cases (hfailed.owner_ne hslot').symm.trans howner'
        | redialled _ _ _ hfirst hconnect _ _ =>
          refine absurd ⟨hfd, hread, herr, hbreaks, fun fd hmem => ?_, hconnect⟩ hnot
          have hretried := (h.logged hslot howner).retried_iff.mpr ⟨fd, hmem⟩
          cases hfirst.symm.trans hretried
  · rw [Server.slotEventRest, hslot] at hok
    dsimp only at hok
    rw [if_pos hcan, if_neg Bool.false_ne_true] at hok
    split_ifs at hok
    · obtain ⟨t, ht, hharmed⟩ := Server.retryOrFail_harmed h hslot howner "inference socket error" io
      cases hok.symm.trans ht
      exact hharmed.oneAttempt
    · exact (Server.driveSlot_counts h hslot howner hok).elim Unharmed.oneAttempt Harmed.oneAttempt

theorem retry_law (hr : (server g).Reachable s) :
    (∀ f ∈ s.finished, f.isReset → Spent f.attempts) ∧
      ∀ idx slot events io s', s.slots[idx]? = some slot → slot.canHandleEvent →
        s.slotEvent g idx events io = .ok s' →
        (OneAttempt s idx slot s' ↔ ¬ ReportedTwice slot events io) := by
  have h := (server_inductive g).reachable hr
  exact ⟨h.attempts.spent, fun _ _ _ _ _ hslot hcan hok => oneAttempt_iff h hslot hcan hok⟩

def hangUp : Event := .Ready firstSlotToken epollhup sampleIo

theorem retry_law_hangUp :
    ∃ s slot s' t f, (server sampleSetup).Reachable s ∧ s.slots[0]? = some slot ∧
      s.slotEvent sampleSetup 0 epollhup sampleIo = .ok s' ∧ OneAttempt s 0 slot s' ∧
      (server sampleSetup).Reachable t ∧ f ∈ t.finished ∧ f.isReset ∧ Spent f.attempts := by
  obtain ⟨s, hr, slot, hslot, hcan, hdone, t, ht, f, hf, hreset⟩ :
      ∃ s, (server sampleSetup).Reachable s ∧ ∃ slot ∈ s.slots[0]?, slot.canHandleEvent ∧
        (s.slotEvent sampleSetup 0 epollhup sampleIo).toOption.isSome ∧
        ∃ t ∈ TransitionSystem.exec (Server.step sampleSetup) s [hangUp, hangUp],
          ∃ f ∈ t.finished, f.isReset :=
    TransitionSystem.Reachable.exists_of_exec requested (by decide +kernel)
  obtain ⟨s', hs'⟩ := Option.isSome_iff_exists.mp hdone
  have hok := eq_ok_of_toOption hs'
  have hr' : (server sampleSetup).Reachable t := .of_exec (fun _ _ _ h => h) hr ht
  refine ⟨s, slot, s', t, f, hr, hslot, hok, ?_, hr', hf, hreset, (retry_law hr').1 f hf hreset⟩
  refine ((retry_law hr).2 0 slot _ _ s' hslot hcan hok).mpr ?_
  rintro ⟨-, -, -, hbreaks, -⟩
  cases hbreaks

def closedEarly : Io := { sampleIo with reads := [.Data []] }

theorem closedEarly_resets :
    ∃ s slot s' f, (server sampleSetup).Reachable s ∧ s.slots[0]? = some slot ∧
      slot.canHandleEvent ∧ slot.attempts = [] ∧ closedEarly.connect = .Ok ∧
      s.slotEvent sampleSetup 0 (epollin ||| epollhup) closedEarly = .ok s' ∧
      f ∈ s'.finished.drop s.finished.length ∧ f.isReset ∧
      f.attempts = [.Failed slot.fd, .Failed (some s.nextSock)] ∧ ¬ OneAttempt s 0 slot s' := by
  obtain ⟨s, hr, slot, hslot, hcan, hfirst, s', hs', f, hf, hreset, hlog⟩ :
      ∃ s, (server sampleSetup).Reachable s ∧ ∃ slot ∈ s.slots[0]?, slot.canHandleEvent ∧
        slot.attempts = [] ∧
        ∃ s' ∈ (s.slotEvent sampleSetup 0 (epollin ||| epollhup) closedEarly).toOption,
          ∃ f ∈ s'.finished.drop s.finished.length,
            f.isReset ∧ f.attempts = [.Failed slot.fd, .Failed (some s.nextSock)] :=
    TransitionSystem.Reachable.exists_of_exec requested (by decide +kernel)
  refine ⟨s, slot, s', f, hr, hslot, hcan, hfirst, rfl, eq_ok_of_toOption hs', hf, hreset, hlog,
    fun hone => ?_⟩
  have hmore := hone.ended f hf
  simp [OneMore, hlog, hfirst] at hmore

end SttBench.OxcamlEpoll
