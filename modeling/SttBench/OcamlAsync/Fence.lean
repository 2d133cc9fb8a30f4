import SttBench.OcamlAsync.Inference
import SttBench.Wire.Messages

/-!
# ocaml-oxcaml, ocaml-websocket-async: the epoch fence

An abandoned request never touches a socket that a later one has published.
-/

namespace SttBench.OcamlAsync

open Ascii TransitionSystem

variable {R : Type} {decode : Bytes → Except Bytes R}

namespace Shared

variable {sh sh' : Shared} {r r' : Req R} {e : Resume} {acts : List Act} {pc : Pc R} {k : SockId}

structure Sound (sh : Shared) : Prop where
  current : ∀ k, sh.rw = some k → (sh.socks k).published = some sh.epoch
  live : ∀ k e, (sh.socks k).isOpen = true → (sh.socks k).published = some e → sh.rw = some k
  le : ∀ k e, (sh.socks k).published = some e → e ≤ sh.epoch
  fresh : ∀ k, sh.nextSock ≤ k → (sh.socks k).published = none

structure Extends (sh sh' : Shared) : Prop where
  epoch : sh.epoch ≤ sh'.epoch
  nextSock : sh.nextSock ≤ sh'.nextSock
  published : ∀ k, k < sh.nextSock → (sh'.socks k).published = (sh.socks k).published

lemma Extends.refl (sh : Shared) : sh.Extends sh := ⟨le_rfl, le_rfl, fun _ _ => rfl⟩

lemma Sound.lt {e : ℕ} (hs : sh.Sound) (h : (sh.socks k).published = some e) : k < sh.nextSock := by
  by_contra hk
  simp [hs.fresh k (Nat.le_of_not_lt hk)] at h

/-! ### The updates -/

lemma Sound.of_published_eq (hs : sh.Sound) (hrw : sh'.rw = sh.rw) (hepoch : sh'.epoch = sh.epoch)
    (hnext : sh.nextSock ≤ sh'.nextSock)
    (hpub : ∀ k, (sh'.socks k).published = (sh.socks k).published)
    (hopen : ∀ k, (sh'.socks k).isOpen = true → (sh.socks k).isOpen = true) : sh'.Sound := by
  refine ⟨?_, ?_, ?_, ?_⟩
  · intro k hk
    rw [hpub, hepoch]
    exact hs.current k (hrw ▸ hk)
  · intro k e hk he
    rw [hrw]
    exact hs.live k e (hopen k hk) (hpub k ▸ he)
  · intro k e he
    rw [hepoch]
    exact hs.le k e (hpub k ▸ he)
  · intro k hk
    rw [hpub]
    exact hs.fresh k (hnext.trans hk)

lemma setSock_published {sock : Sock} (hpub : sock.published = (sh.socks k).published)
    (j : SockId) : ((sh.setSock k sock).socks j).published = (sh.socks j).published := by
  simp only [setSock, Function.update_apply]
  split_ifs with hj
  · rw [hj, hpub]
  · rfl

lemma Sound.setSock {sock : Sock} (hs : sh.Sound)
    (hpub : sock.published = (sh.socks k).published)
    (hopen : sock.isOpen = true → (sh.socks k).isOpen = true) : (sh.setSock k sock).Sound := by
  refine hs.of_published_eq rfl rfl le_rfl (setSock_published hpub) ?_
  intro j
  simp only [Shared.setSock, Function.update_apply]
  split_ifs with hj
  · exact hj ▸ hopen
  · exact id

lemma extends_setSock {sock : Sock} (hpub : sock.published = (sh.socks k).published) :
    sh.Extends (sh.setSock k sock) :=
  ⟨le_rfl, le_rfl, fun j _ => setSock_published hpub j⟩

lemma closeConn_rw : sh.closeConn.rw = none := by
  unfold closeConn
  split
  case h_1 hrw => exact hrw
  case h_2 => rfl

lemma closeConn_epoch : sh.closeConn.epoch = sh.epoch := by
  unfold closeConn
  split <;> rfl

lemma closeConn_published (k : SockId) :
    (sh.closeConn.socks k).published = (sh.socks k).published := by
  unfold closeConn closeSock setSock
  split
  · rfl
  · simp only [Function.update_apply]
    split_ifs with hk
    · rw [hk]
    · rfl

lemma closeConn_nextSock : sh.closeConn.nextSock = sh.nextSock := by
  unfold closeConn
  split <;> rfl

lemma closeConn_isOpen (h : (sh.closeConn.socks k).isOpen = true) :
    (sh.socks k).isOpen = true ∧ sh.rw ≠ some k := by
  revert h
  unfold closeConn closeSock setSock
  split
  case h_1 hrw =>
      intro h
      exact ⟨h, by simp [hrw]⟩
  case h_2 j hrw =>
      simp only [Function.update_apply]
      split_ifs with hk
      · simp
      · intro h
        exact ⟨h, by simpa [hrw] using fun hjk => hk hjk.symm⟩

lemma extends_closeConn : sh.Extends sh.closeConn :=
  ⟨closeConn_epoch.ge, closeConn_nextSock.ge, fun k _ => closeConn_published k⟩

lemma sound_closeConn
    (hlive : ∀ k e, (sh.socks k).isOpen = true → (sh.socks k).published = some e → sh.rw = some k)
    (hle : ∀ k e, (sh.socks k).published = some e → e ≤ sh.epoch)
    (hfresh : ∀ k, sh.nextSock ≤ k → (sh.socks k).published = none) : sh.closeConn.Sound := by
  refine ⟨?_, ?_, ?_, ?_⟩
  · intro k hk
    simp [closeConn_rw] at hk
  · intro k e hopen he
    obtain ⟨hlive', hne⟩ := closeConn_isOpen hopen
    rw [closeConn_published] at he
    exact absurd (hlive k e hlive' he) hne
  · intro k e he
    rw [closeConn_published] at he
    rw [closeConn_epoch]
    exact hle k e he
  · intro k hk
    rw [closeConn_published]
    exact hfresh k (closeConn_nextSock.symm.trans_le hk)

lemma dialed_published {stream : Bytes} {isOpen : Bool} {published : Option ℕ} :
    ((sh.dialed stream isOpen published).socks k).published =
      if k = sh.nextSock then published else (sh.socks k).published := by
  simp only [dialed, setSock, Function.update_apply]
  split_ifs <;> rfl

lemma dialed_isOpen {stream : Bytes} {isOpen : Bool} {published : Option ℕ} :
    ((sh.dialed stream isOpen published).socks k).isOpen =
      if k = sh.nextSock then isOpen else (sh.socks k).isOpen := by
  simp only [dialed, setSock, Function.update_apply]
  split_ifs <;> rfl

lemma extends_dialed {stream : Bytes} {isOpen : Bool} {published : Option ℕ} :
    sh.Extends (sh.dialed stream isOpen published) := by
  refine ⟨le_rfl, Nat.le_succ _, ?_⟩
  intro k hk
  rw [dialed_published, if_neg hk.ne]

lemma Sound.published {epoch : ℕ} (hs : sh.Sound) (stream : Bytes) (hrw : sh.rw = none)
    (hcurrent : sh.epoch = epoch) :
    Sound { sh.dialed stream true (some epoch) with rw := some sh.nextSock } := by
  refine ⟨?_, ?_, ?_, ?_⟩
  · rintro k ⟨⟩
    exact (dialed_published.trans (if_pos rfl)).trans (congrArg some hcurrent.symm)
  · intro k e hopen he
    by_cases hk : k = sh.nextSock
    · rw [hk]
    · have hopen' := dialed_isOpen.symm.trans hopen
      have he' := dialed_published.symm.trans he
      rw [if_neg hk] at hopen' he'
      exact absurd (hs.live k e hopen' he') (by simp [hrw])
  · intro k e he
    have he' := dialed_published.symm.trans he
    split_ifs at he'
    · exact hcurrent.symm ▸ (Option.some.inj he').ge
    · exact hs.le k e he'
  · intro k hk
    have hne : k ≠ sh.nextSock := by
      rintro rfl
      exact absurd hk (Nat.not_succ_le_self _)
    exact (dialed_published.trans (if_neg hne)).trans (hs.fresh k ((Nat.le_succ _).trans hk))

lemma Sound.dropped (hs : sh.Sound) (stream : Bytes) : (sh.dialed stream false none).Sound := by
  refine hs.of_published_eq rfl rfl (Nat.le_succ _) ?_ ?_
  · intro k
    rw [dialed_published]
    split_ifs with hk
    · rw [hs.fresh k hk.ge]
    · rfl
  · intro k hk
    rw [dialed_isOpen] at hk
    split_ifs at hk
    exact hk

/-! ### The steps of a coroutine -/

def Owns (sh : Shared) (epoch : ℕ) (pc : Pc R) : Prop :=
  ∀ k, pc.held = some k → (sh.socks k).published = some epoch

lemma Owns.of_held_none {epoch : ℕ} (h : pc.held = none) : sh.Owns epoch pc := by
  intro k hk
  simp [h] at hk

lemma Owns.extend {epoch : ℕ} (h : sh.Owns epoch pc) (hs : sh.Sound) (hext : sh.Extends sh') :
    sh'.Owns epoch pc := by
  intro k hk
  rw [hext.published k (hs.lt (h k hk))]
  exact h k hk

structure InTurn (sh : Shared) (r : Req R) : Prop where
  owns : sh.Owns r.epoch r.pc
  le : r.epoch ≤ sh.epoch
  created : r.pc = .Created → r.epoch = sh.epoch
  dials : r.pc.dials = true → r.epoch = sh.epoch → sh.rw = none

lemma Effect.sound (heff : Effect decode sh r e sh' pc acts) (hs : sh.Sound) (hr : sh.InTurn r) :
    sh'.Sound ∧ sh.Extends sh' ∧ sh'.epoch = sh.epoch ∧ sh'.Owns r.epoch pc := by
  cases heff with
  | @acquired k hpc hk =>
    refine ⟨hs, .refl sh, rfl, ?_⟩
    rintro j ⟨⟩
    rw [hr.created hpc]
    exact hs.current _ hk
  | moved hheld _ _ => exact ⟨hs, .refl sh, rfl, .of_held_none hheld⟩
  | @wrote k attempt hpc _ =>
    have hext : sh.Extends (sh.written k) := extends_setSock rfl
    have howns : sh.Owns r.epoch (Pc.Waiting k attempt : Pc R) := by
      rintro j ⟨⟩
      exact hr.owns k (by rw [hpc]; rfl)
    exact ⟨hs.setSock rfl id, hext, rfl, howns.extend hs hext⟩
  | read _ _ _ => exact ⟨hs.setSock rfl id, extends_setSock rfl, rfl, .of_held_none rfl⟩
  | closed hheld _ =>
    exact ⟨sound_closeConn hs.live hs.le hs.fresh, extends_closeConn, closeConn_epoch,
      .of_held_none hheld⟩
  | published stream hpc hcurrent =>
    have hnone : sh.rw = none := hr.dials (by rw [hpc]; rfl) hcurrent.symm
    refine ⟨hs.published stream hnone hcurrent, ⟨le_rfl, Nat.le_succ _, extends_dialed.published⟩,
      rfl, ?_⟩
    rintro k ⟨⟩
    exact dialed_published.trans (if_pos rfl)
  | dropped stream _ _ => exact ⟨hs.dropped stream, extends_dialed, rfl, .of_held_none rfl⟩

lemma Effect.rw_eq (heff : Effect decode sh r e sh' pc acts) (hstale : sh.epoch ≠ r.epoch) :
    sh'.rw = sh.rw := by
  cases heff with
  | acquired _ _ | moved _ _ _ | wrote _ _ | read _ _ _ | dropped _ _ _ => rfl
  | closed _ hcurrent | published _ _ hcurrent => exact absurd hcurrent hstale

lemma Effect.dials (heff : Effect decode sh r e sh' pc acts) (hr : sh.InTurn r)
    (hcurrent : r.epoch = sh.epoch) (hpc : pc.dials = true) : sh'.rw = none := by
  cases heff with
  | moved _ _ hdials => exact (hdials hpc).elim id fun h => hr.dials h hcurrent
  | closed _ _ => exact closeConn_rw
  | acquired _ _ | wrote _ _ | read _ _ _ | published _ _ _ | dropped _ _ _ => cases hpc

end Shared

def Act.sock : Act → Option SockId
  | .Store => none
  | .Close k => some k
  | .Write k => some k

def Act.Allowed (sh : Shared) (epoch : ℕ) (act : Act) : Prop :=
  act ≠ .Store ∧ ∀ k, act.sock = some k →
    k < sh.nextSock ∧ ∀ e, (sh.socks k).published = some e → e ≤ epoch

lemma Act.Allowed.extend {sh sh' : Shared} {epoch : ℕ} {act : Act} (h : act.Allowed sh epoch)
    (hext : sh.Extends sh') : act.Allowed sh' epoch := by
  refine ⟨h.1, ?_⟩
  intro k hk
  obtain ⟨hlt, hle⟩ := h.2 k hk
  refine ⟨hlt.trans_le hext.nextSock, ?_⟩
  rw [hext.published k hlt]
  exact hle

lemma Shared.Effect.allowed {sh sh' : Shared} {r : Req R} {e : Resume} {pc : Pc R} {acts : List Act}
    (heff : Effect decode sh r e sh' pc acts) (hs : sh.Sound) (hr : sh.InTurn r)
    (hstale : sh.epoch ≠ r.epoch) : ∀ act ∈ acts, act.Allowed sh' r.epoch := by
  intro act hact
  cases heff with
  | acquired _ _ | moved _ _ _ | read _ _ _ => cases hact
  | @wrote k attempt hpc _ =>
    obtain rfl := List.mem_singleton.mp hact
    have hpub : (sh.socks k).published = some r.epoch := hr.owns k (by rw [hpc]; rfl)
    have hallowed : (Act.Write k).Allowed sh r.epoch := by
      refine ⟨by simp, ?_⟩
      rintro j ⟨⟩
      exact ⟨hs.lt hpub, fun e he => (Option.some.inj (hpub.symm.trans he)).ge⟩
    exact hallowed.extend (Shared.extends_setSock rfl)
  | closed _ hcurrent | published _ _ hcurrent => exact absurd hcurrent hstale
  | dropped stream _ _ =>
    obtain rfl := List.mem_singleton.mp hact
    refine ⟨by simp, ?_⟩
    rintro j ⟨⟩
    refine ⟨Nat.lt_succ_self _, ?_⟩
    rw [Shared.dialed_published, if_pos rfl]
    simp

/-! ## The session -/

namespace Session

variable {s s' : Session R}

structure Fenced (s : Session R) : Prop where
  sound : s.shared.Sound
  running : ∀ r, s.send = .Running r → r.epoch = s.shared.epoch ∧ s.shared.InTurn r
  orphans : ∀ r ∈ s.orphans,
    r.epoch < s.shared.epoch ∧ r.pc ≠ .Created ∧ s.shared.Owns r.epoch r.pc
  deeds : ∀ d ∈ s.deeds, d.orphan = true → d.act.Allowed s.shared d.epoch

lemma Fenced.inTurn (hs : s.Fenced) {r : Req R} (hr : r ∈ s.orphans) : s.shared.InTurn r := by
  obtain ⟨hlt, hpc, howns⟩ := hs.orphans r hr
  exact ⟨howns, hlt.le, fun h => absurd h hpc, fun _ h => absurd h hlt.ne⟩

lemma Fenced.orphans_extend (hs : s.Fenced) {sh : Shared} (hext : s.shared.Extends sh) :
    ∀ r ∈ s.orphans, r.epoch < sh.epoch ∧ r.pc ≠ .Created ∧ sh.Owns r.epoch r.pc := by
  intro r hr
  obtain ⟨hlt, hpc, howns⟩ := hs.orphans r hr
  exact ⟨hlt.trans_le hext.epoch, hpc, howns.extend hs.sound hext⟩

lemma Fenced.deeds_extend (hs : s.Fenced) {sh : Shared} (hext : s.shared.Extends sh) :
    ∀ d ∈ s.deeds, d.orphan = true → d.act.Allowed sh d.epoch := by
  intro d hd horphan
  exact (hs.deeds d hd horphan).extend hext

lemma step_send (hs : s.Fenced) (h : s.step decode .Send = some s') : s'.Fenced := by
  simp only [step] at h
  split at h <;> simp only [Option.some.injEq, reduceCtorEq] at h
  subst h
  refine ⟨hs.sound, ?_, hs.orphans, hs.deeds⟩
  rintro r ⟨⟩
  exact ⟨rfl, .of_held_none rfl, le_rfl, fun _ => rfl, nofun⟩

lemma step_request {e : Resume} (hs : s.Fenced) (h : s.step decode (.Request e) = some s') :
    s'.Fenced := by
  simp only [step] at h
  split at h
  case h_2 => cases h
  case h_1 r hsend =>
    obtain ⟨⟨sh, r', acts⟩, hadv, rfl⟩ := Option.map_eq_some_iff.mp h
    obtain ⟨hcur, hturn⟩ := hs.running r hsend
    obtain ⟨hepoch', hpc', heff⟩ := Shared.advance_effect hadv
    obtain ⟨hsound, hext, hepoch, howns⟩ := heff.sound hs.sound hturn
    refine ⟨hsound, ?_, hs.orphans_extend hext, ?_⟩
    · rintro q ⟨⟩
      have hq : r'.epoch = sh.epoch := hepoch'.trans (hcur.trans hepoch.symm)
      refine ⟨hq, hepoch' ▸ howns, hq.le, fun h => absurd h hpc', ?_⟩
      intro hdials _
      exact heff.dials hturn hcur hdials
    · intro d hd horphan
      rcases List.mem_append.mp hd with hd | hd
      · exact hs.deeds_extend hext d hd horphan
      · -- what the running send's request does is not subject to the fence
        obtain ⟨act, _, rfl⟩ := List.mem_map.mp hd
        cases horphan

lemma step_orphan {i : ℕ} {e : Resume} (hs : s.Fenced)
    (h : s.step decode (.Orphan i e) = some s') : s'.Fenced := by
  simp only [step] at h
  split at h
  case h_1 => cases h
  case h_2 r hi =>
    obtain ⟨⟨sh, r', acts⟩, hadv, rfl⟩ := Option.map_eq_some_iff.mp h
    have hr : r ∈ s.orphans := List.mem_of_getElem? hi
    have hturn := hs.inTurn hr
    have hlt := (hs.orphans r hr).1
    obtain ⟨hepoch', hpc', heff⟩ := Shared.advance_effect hadv
    obtain ⟨hsound, hext, hepoch, howns⟩ := heff.sound hs.sound hturn
    refine ⟨hsound, ?_, ?_, ?_⟩
    · intro q hq
      obtain ⟨hcur, hown, hle, hcreated, hdials⟩ := hs.running q hq
      refine ⟨hcur.trans hepoch.symm, hown.extend hs.sound hext, hepoch.symm ▸ hle,
        fun hpc => (hcreated hpc).trans hepoch.symm, ?_⟩
      intro hpc _
      exact (heff.rw_eq hlt.ne').trans (hdials hpc hcur)
    · intro q hq
      rcases List.mem_or_eq_of_mem_set hq with hq | rfl
      · exact hs.orphans_extend hext q hq
      · exact ⟨(hepoch'.trans_lt hlt).trans_eq hepoch.symm, hpc', hepoch' ▸ howns⟩
    · intro d hd horphan
      rcases List.mem_append.mp hd with hd | hd
      · exact hs.deeds_extend hext d hd horphan
      · obtain ⟨act, hact, rfl⟩ := List.mem_map.mp hd
        exact heff.allowed hs.sound hturn hlt.ne' act hact

lemma Fenced.abandon (hs : s.Fenced) {r : Req R} (hsend : s.send = .Running r)
    (hpc : r.pc ≠ .Created) :
    Fenced { s with shared := { s.shared with epoch := s.shared.epoch + 1 }.closeConn,
                    send := .Abandoning, orphans := s.orphans ++ [r] } := by
  obtain ⟨hcur, hturn⟩ := hs.running r hsend
  have hclose : Shared.Extends { s.shared with epoch := s.shared.epoch + 1 }
      { s.shared with epoch := s.shared.epoch + 1 }.closeConn := Shared.extends_closeConn
  have hext : s.shared.Extends { s.shared with epoch := s.shared.epoch + 1 }.closeConn :=
    ⟨(Nat.le_succ _).trans hclose.epoch, hclose.nextSock, hclose.published⟩
  refine ⟨?_, nofun, ?_, hs.deeds_extend hext⟩
  · exact Shared.sound_closeConn hs.sound.live
      (fun k e he => (hs.sound.le k e he).trans (Nat.le_succ _)) hs.sound.fresh
  · intro q hq
    rcases List.mem_append.mp hq with hq | hq
    · exact hs.orphans_extend hext q hq
    · obtain rfl := List.mem_singleton.mp hq
      have hlt : q.epoch < s.shared.epoch + 1 := Nat.lt_succ_of_le hturn.le
      exact ⟨hlt.trans_le hclose.epoch, hpc, hturn.owns.extend hs.sound hext⟩

lemma step_abandon (hs : s.Fenced) (h : s.step decode .Abandon = some s') : s'.Fenced := by
  simp only [step] at h
  split at h
  case h_2 r hpc hsend =>
    cases h
    refine hs.abandon hsend ?_
    rintro hcreated
    exact hpc r.epoch (by rw [← hcreated])
  all_goals cases h

lemma Fenced.quiet (hs : s.Fenced) {send : Send R} (hsend : ∀ r, send ≠ .Running r) :
    Fenced { s with send := send } :=
  ⟨hs.sound, fun r hr => absurd hr (hsend r), hs.orphans, hs.deeds⟩

lemma Fenced.close (hs : s.Fenced) :
    Fenced { s with shared := s.shared.closeConn, send := .Closed } :=
  ⟨Shared.sound_closeConn hs.sound.live hs.sound.le hs.sound.fresh, nofun,
    hs.orphans_extend Shared.extends_closeConn, hs.deeds_extend Shared.extends_closeConn⟩

end Session

lemma fenced_inductive : (session decode).Inductive Session.Fenced where
  init := by
    rintro s rfl
    exact ⟨⟨nofun, nofun, nofun, fun _ _ => rfl⟩, nofun, nofun, nofun⟩
  step := by
    intro s e s' hs h
    cases e with
    | Send => exact Session.step_send hs h
    | Request e => exact Session.step_request hs h
    | Abandon => exact Session.step_abandon hs h
    | Orphan i e => exact Session.step_orphan hs h
    | Return | Abandoned =>
      simp only [session, ofFun, Session.step] at h
      split at h <;> simp only [Option.some.injEq, reduceCtorEq] at h
      exact h ▸ hs.quiet nofun
    | Close =>
      simp only [session, ofFun, Session.step] at h
      split at h <;> simp only [Option.some.injEq, reduceCtorEq] at h
      exact h ▸ hs.close

theorem epoch_fence {s : Session R} (hs : (session decode).Reachable s) :
    (∀ d ∈ s.deeds, d.orphan = true → d.act ≠ .Store ∧
      ∀ k, d.act = .Close k ∨ d.act = .Write k →
        ∀ e, (s.shared.socks k).published = some e → e ≤ d.epoch) ∧
    ∀ k, (s.shared.socks k).isOpen = true → (s.shared.socks k).published.isSome = true →
      s.shared.rw = some k := by
  have hinv := fenced_inductive.reachable hs
  constructor
  · intro d hd horphan
    obtain ⟨hstore, hsock⟩ := hinv.deeds d hd horphan
    refine ⟨hstore, ?_⟩
    rintro k (hk | hk)
    · exact (hsock k (by rw [hk]; rfl)).2
    · exact (hsock k (by rw [hk]; rfl)).2
  · intro k hopen hpub
    obtain ⟨e, he⟩ := Option.isSome_iff_exists.mp hpub
    exact hinv.sound.live k e hopen he

def decodeSilence (body : Bytes) : Except Bytes (Wire.Prediction ℚ) :=
  if body = bytes Wire.silenceJson then .ok ⟨0, 0, 0, 320, "", 640⟩ else .error (bytes "Json_error")

def lateDial : List Event :=
  [.Send, .Request .Go, .Abandon, .Abandoned,
   .Send, .Request .Go, .Request (.Connected []), .Request .Go,
   .Orphan 0 (.Connected []), .Orphan 0 .Go]

theorem epoch_fence_lateDial :
    ∃ s, (session decodeSilence).Reachable s ∧
      (s.deeds = [⟨false, 1, .Store⟩, ⟨false, 1, .Write 0⟩, ⟨true, 0, .Close 1⟩] ∧
        s.shared.rw = some 0 ∧ (s.shared.socks 0).isOpen = true) ∧
      (∀ d ∈ s.deeds, d.orphan = true → d.act ≠ .Store ∧
        ∀ k, d.act = .Close k ∨ d.act = .Write k →
          ∀ e, (s.shared.socks k).published = some e → e ≤ d.epoch) ∧
      ∀ k, (s.shared.socks k).isOpen = true → (s.shared.socks k).published.isSome = true →
        s.shared.rw = some k := by
  obtain ⟨s, hreach, hs⟩ : ∃ s, (session decodeSilence).Reachable s ∧
      s.deeds = [⟨false, 1, .Store⟩, ⟨false, 1, .Write 0⟩, ⟨true, 0, .Close 1⟩] ∧
        s.shared.rw = some 0 ∧ (s.shared.socks 0).isOpen = true :=
    Reachable.exists_of_exec lateDial (by decide +kernel)
  exact ⟨s, hreach, hs, epoch_fence hreach⟩

end SttBench.OcamlAsync
