/-
# The egress relay

The enclave has no network.  For a connection it asks the relay of its parent
(`parent/src/egress_relay.rs`): it sends a line with the target, waits for the line `OK`, and
from then on its stream is meant to be a pipe to the target.  The relay copies both ways
until one of the two loops is done (`tokio::select!`), and then drops both streams.
-/

import Subly402.Lib.HexText
import Subly402.Lib.Lines
import Subly402.Lib.Pump
import Subly402.Lib.Result
import Subly402.Lib.Runs
import Subly402.Lib.SplitText

namespace Subly402
namespace Egress

open Lib

/-! ### Targets -/

/-- `parse_target`.  An address of IPv6 stands in brackets. -/
def parseTarget (target : List Char) : Except String (List Char × ℕ) :=
  match (splitOnce [']', ':'] target).filter fun _ => target.head? = some '[' with
  | some (before, after) => do
    let port ← okOrElse (parseU16 after) "invalid port"
    refuseIf (before.tail = []) "empty host"
    return (before.tail, port)
  | none => do
    let (host, port) ← okOrElse (rsplitOnce ':' target) "missing port"
    refuseIf (host = []) "empty host"
    return (host, ← okOrElse (parseU16 port) "invalid port")

/-- `parse_allow_rule`. -/
def parseAllowRule (rule : List Char) : List Char × Option ℕ :=
  match (splitOnce [']', ':'] rule).filter fun _ => rule.head? = some '[' with
  | some (before, after) => (before.tail, parseU16 after)
  | none =>
    match rsplitOnce ':' rule with
    | some (host, port) =>
      match parseU16 port with
      | some port => (host, some port)
      | none => (rule, none)
    | none => (rule, none)

/-- `allow_rule_matches`. -/
def allowRuleMatches (rule host : List Char) (port : ℕ) : Bool :=
  let (hostRule, portRule) := parseAllowRule rule
  if portRule.any (· ≠ port) then false
  else if hostRule = ['*'] then true
  else if ['*', '.'].isPrefixOf hostRule then
    let suffix := hostRule.drop 2
    host = suffix ∨ suffix.isSuffixOf host ∧
      (host.take (host.length - suffix.length)).getLast? = some '.'
  else hostRule.map Char.toLower = host.map Char.toLower

/-- What `handle_egress_request` makes of the target line: the last words of a refusal, or whom to
dial.  A line that is no text ends the request without a word. -/
def checkTarget (allowlist : List (List Char)) (line : List UInt8) :
    Except (List UInt8) (List Char × ℕ) := do
  let text ← okOrElse (String.fromUTF8? ⟨line.toArray⟩) []
  let target := HexText.trim text.toList
  refuseIf (target = []) (utf8 "ERR empty target\n")
  let (host, port) ← (parseTarget target).mapError fun reason => utf8 s!"ERR {reason}\n"
  refuseIf (allowlist ≠ [] ∧ ¬ allowlist.any (allowRuleMatches · host port))
    (utf8 ("ERR target " ++ String.ofList host ++ s!":{port} is not allowed\n"))
  return (host, port)

/-- Where the enclave wants to connect to.  The host of a URL is one line. -/
structure Target where
  host : String
  port : ℕ
  oneLine : breaks host = 0

/-- The line that `connect_via_parent_relay` sends. -/
def Target.line (target : Target) : List UInt8 := 
  utf8 (target.host ++ ":" ++ toString target.port ++ "\n")

/-! ### The two ends and the relay -/

/-- `connect_via_parent_relay`: reading the status line, returned with the stream, or with an
error. -/
inductive Client where
  | status (line : List UInt8)
  | opened
  | refused
deriving DecidableEq

/-- `handle_egress_request`: reading the target line, connecting, copying both ways, and returned
after that or without it. -/
inductive Relay where
  | target (line : List UInt8)
  | dialing (host : List Char) (port : ℕ)
  | relaying
  | ended
  | refused
deriving DecidableEq

/-- The side whose bytes are copied. -/
inductive Side where
  | enclave
  | target
deriving DecidableEq

/-- The other side. -/
def Side.other : Side → Side
  | .enclave => .target
  | .target => .enclave

/-- The enclave, the relay, and the streams between enclave, relay and target: `up` carries what the
enclave sends and `down` what the target sends. -/
structure World where
  client : Client
  relay : Relay
  up : Pump
  down : Pump
deriving DecidableEq

/-- What happens: the buffered readers of the enclave and of the relay read, the relay's connection
is there or fails, a side sends or is done, one of the two loops reads, writes or returns, and
the reader of a side's bytes reads. -/
inductive Act where
  | status (n : ℕ)
  | accept (n : ℕ)
  | connect (error : Option String)
  | send (side : Side) (bytes : List UInt8)
  | close (side : Side)
  | read (side : Side) (n : ℕ)
  | write (side : Side) (n : ℕ)
  | finish (side : Side)
  | take (side : Side) (n : ℕ)

/-- The bytes of `OK` and a line break. -/
def okLine : List UInt8 := [79, 75, 10]

/-- What the relay writes before the bytes of a side. -/
def Side.first : Side → List UInt8
  | .enclave => []
  | .target => okLine

/-- What the enclave makes of the status line. -/
def checkStatus (line : List UInt8) : Client :=
  if (String.fromUTF8? ⟨line.toArray⟩).map (fun text => HexText.trim text.toList) = some ['O', 'K']
  then .opened else .refused

namespace World

/-- The enclave has connected to the relay and sent its line. -/
def start (target : Target) : World :=
  { client := .status [], relay := .target []
    up := { Pump.fresh with inlet := ⟨target.line, false⟩ }, down := .fresh }

/-- The stream of a side's bytes. -/
def pump (w : World) : Side → Pump
  | .enclave => w.up
  | .target => w.down

/-- The stream of a side's bytes goes on. -/
def setPump (w : World) (p : Pump) : Side → World
  | .enclave => { w with up := p }
  | .target => { w with down := p }

/-- The relay copies, or has copied. -/
def Established (w : World) : Prop := w.relay = .relaying ∨ w.relay = .ended

/-- The side has its stream. -/
def Connected (w : World) : Side → Prop
  | .enclave => w.client = .opened
  | .target => w.Established

instance (w : World) : Decidable w.Established := inferInstanceAs (Decidable (_ ∨ _))

instance (w : World) : ∀ side, Decidable (w.Connected side)
  | .enclave => inferInstanceAs (Decidable (_ = _))
  | .target => inferInstanceAs (Decidable (_ ∨ _))

/-- The relay gives up with some last words, and drops the stream. -/
def refuse (w : World) (message : List UInt8) : World :=
  { w with relay := .refused, down := { w.down with outlet := ⟨w.down.outlet.queue ++ message, true⟩ } }

/-- The relay has its target line. -/
def greet (allowlist : List (List Char)) (w : World) (line : List UInt8) : World :=
  match checkTarget allowlist line with
  | .error message => w.refuse message
  | .ok (host, port) => { w with relay := .dialing host port }

/-- The bytes that the enclave's buffered reader gets. -/
def chunk (w : World) (n : ℕ) : List UInt8 := w.down.outlet.queue.take (min n 8192)

/-- One step.  A step that cannot be taken changes nothing. -/
def next (allowlist : List (List Char)) (w : World) : Act → World
  | .status n =>
    match w.client with
    | .status line =>
      if w.chunk n = [] then
        if w.down.outlet = ⟨[], true⟩ then { w with client := checkStatus line } else w
      else
        -- `read_line` takes what stands before the line break; the rest stays in the buffer
        match splitOnce [10] (w.chunk n) with
        | some (last, _) =>
          { w with client := checkStatus (line ++ last ++ [10]), down := w.down.skim (min n 8192) }
        | none =>
          { w with client := .status (line ++ w.chunk n), down := w.down.skim (min n 8192) }
    | _ => w
  | .accept n =>
    match w.relay with
    | .target line =>
      let chunk := w.up.inlet.queue.take (min n 8192)
      let read : World :=
        { w with up := { w.up with inlet := ⟨w.up.inlet.queue.drop (min n 8192), w.up.inlet.closed⟩ } }
      if chunk = [] then if w.up.inlet = ⟨[], true⟩ then w.greet allowlist line else w
      else
        match splitOnce [10] chunk with
        | some (last, _) => read.greet allowlist (line ++ last ++ [10])
        | none => { read with relay := .target (line ++ chunk) }
    | _ => w
  | .connect error =>
    match w.relay, error with
    | .dialing _ _, none =>
      { w with
        relay := .relaying
        down := { w.down with outlet := ⟨w.down.outlet.queue ++ okLine, w.down.outlet.closed⟩ } }
    | .dialing _ _, some error => w.refuse (utf8 s!"ERR {error}\n")
    | _, _ => w
  | .send side bytes => if w.Connected side then w.setPump ((w.pump side).send bytes) side else w
  | .close side => if w.Connected side then w.setPump (w.pump side).close side else w
  | .read side n =>
    if w.relay = .relaying then w.setPump ((w.pump side).read (min n 65536)) side else w
  | .write side n => if w.relay = .relaying then w.setPump ((w.pump side).write n) side else w
  | .finish side =>
    if w.relay = .relaying ∧ (w.pump side).loop = .closing then
      { w with relay := .ended, up := w.up.stop, down := w.down.stop }
    else w
  | .take side n =>
    if w.Connected side.other then w.setPump ((w.pump side).take n) side else w

/-- What the handshake has taken from the stream with the bytes of a side. -/
def skimmed (w : World) : Side → List UInt8
  | .enclave => []
  | .target =>
    match w.client with
    | .status line => line
    | .opened => okLine
    | .refused => []

/-- **The relay is a pipe**: both ways no byte is lost, doubled or out of order, and no side finds
the end before the other side is done and everything has arrived. -/
def Lossless (w : World) : Prop :=
  w.Established → ∀ side, (w.pump side).Lossless side.first (w.skimmed side)

/-- What a step needs: that the read of the status line brings nothing after it, and that a loop
that returns leaves nothing to the other one. -/
def Safe (w : World) : Act → Prop
  | .status n => w.Established → ∀ line, w.client = .status line → ∀ last rest,
      splitOnce [10] (w.chunk n) = some (last, rest) → rest = []
  | .finish side => w.relay = .relaying → (w.pump side).loop = .closing →
      (w.pump side.other).Drained
  | _ => True

end World

/-! ### Lines -/

/-- The first line of a stream is read whole, however it is split. -/
theorem line_eq_of_splitOnce {line chunk last rest more body tail : List UInt8} (hline : 10 ∉ line)
    (hbody : 10 ∉ body) (hchunk : splitOnce [10] chunk = some (last, rest))
    (h : line ++ (chunk ++ more) = (body ++ [10]) ++ tail) :
    line ++ last = body ∧ rest ++ more = tail := by
  obtain ⟨rfl, hlast⟩ := splitOnce_singleton_eq_some hchunk
  have hcut : (line ++ last) ++ 10 :: (rest ++ more) = body ++ 10 :: tail := by simpa using h
  have hfront : 10 ∉ line ++ last := fun hmem => (List.mem_append.1 hmem).elim hline hlast
  have hfirst := splitOnce_singleton hfront (rest ++ more)
  rw [hcut, splitOnce_singleton hbody tail, Option.some.injEq, Prod.mk.injEq] at hfirst
  exact ⟨hfirst.1.symm, hfirst.2.symm⟩

/-- Only a line break has the byte of one. -/
theorem eq_break_of_mem {c : Char} (h : 10 ∈ String.utf8EncodeChar c) : c = '\n' := by
  have hbyte : ∀ m < 256, (10 : UInt8) = UInt8.ofNat m → m = 10 := by
    intro m hm h
    have hnat := congrArg UInt8.toNat h
    simp only [UInt8.toNat_ofNat', Nat.mod_eq_of_lt hm] at hnat
    exact hnat.symm
  have hval : c.val.toNat = 10 := by
    unfold String.utf8EncodeChar at h
    dsimp only at h
    split_ifs at h <;> simp only [List.mem_cons, List.not_mem_nil, or_false] at h
    · exact hbyte _ (by omega) h
    · rcases h with h | h <;> have hlow := hbyte _ (by omega) h <;> omega
    · rcases h with h | h | h <;> have hlow := hbyte _ (by omega) h <;> omega
    · rcases h with h | h | h | h <;> have hlow := hbyte _ (by omega) h <;> omega
  exact Char.ext (UInt32.toNat_inj.1 hval)

theorem not_mem_utf8 {text : String} (h : breaks text = 0) : 10 ∉ utf8 text := by
  intro hmem
  rw [← String.ofList_toList (s := text), utf8_ofList] at hmem
  obtain ⟨c, hc, hbyte⟩ := List.mem_flatMap.1 hmem
  exact breaks_eq_zero.1 h (eq_break_of_mem hbyte ▸ hc)

theorem Target.line_eq (target : Target) : ∃ body, 10 ∉ body ∧ target.line = body ++ [10] := by
  refine ⟨utf8 (target.host ++ ":" ++ toString target.port), not_mem_utf8 ?_, ?_⟩
  · have hcolon : breaks ":" = 0 := rfl
    rw [breaks_append, breaks_append, target.oneLine, breaks_toString, hcolon]
  · have hbreak : utf8 "\n" = [10] := by decide +kernel
    rw [Target.line, utf8_append, hbreak]

/-! ### What is kept -/

namespace World

variable {allowlist : List (List Char)} {target : Target} {w : World} {side : Side}

/-- While the relay copies, and after: the bytes flow both ways, and the enclave has its stream or
waits for the end of the status line. -/
structure Copying (w : World) : Prop where
  flows : ∀ side, (w.pump side).Flows side.first (w.skimmed side)
  sound : ∀ side, (w.pump side).Sound
  waits : ∀ line, w.client = .status line → 10 ∉ line ∧ w.down.received = []
  trusts : w.client ≠ .refused

/-- What holds in every state.  Until the relay is connected nothing but the target line is on its
way. -/
def Inv (target : Target) (w : World) : Prop :=
  match w.relay with
  | .target line => w.client = .status [] ∧ w.down = .fresh ∧ 10 ∉ line ∧
      ∃ rest, line ++ rest = target.line ∧ w.up = { Pump.fresh with inlet := ⟨rest, false⟩ }
  | .dialing _ _ => w.client = .status [] ∧ w.down = .fresh ∧ w.up = .fresh
  | .relaying | .ended => w.Copying
  | .refused => True

theorem Inv.copying (h : w.Inv target) (hest : w.Established) : w.Copying := by
  unfold Inv at h
  rcases hest with hrelay | hrelay <;> rwa [hrelay] at h

theorem Copying.inv (h : w.Copying) (hest : w.Established) : w.Inv target := by
  unfold Inv
  rcases hest with hrelay | hrelay <;> rwa [hrelay]

theorem Inv.lossless (h : w.Inv target) : w.Lossless := fun hest side =>
  ((h.copying hest).sound side).lossless ((h.copying hest).flows side)

theorem inv_start (target : Target) : (start target).Inv target :=
  ⟨rfl, rfl, List.not_mem_nil, target.line, rfl, rfl⟩

/-! ### The handshake -/

/-- The relay reads the target line and nothing else: the enclave waits. -/
theorem Inv.accept (h : w.Inv target) (n : ℕ) : (w.next allowlist (.accept n)).Inv target := by
  cases hrelay : w.relay with
  | target line =>
    unfold Inv at h
    rw [hrelay] at h
    obtain ⟨hclient, hdown, hline, rest, hrest, hup⟩ := h
    obtain ⟨body, hbody, htarget⟩ := target.line_eq
    simp only [next, hrelay, hup]
    rw [if_neg (by simp : (⟨rest, false⟩ : Wire) ≠ ⟨[], true⟩)]
    split
    · unfold Inv
      rw [hrelay]
      exact ⟨hclient, hdown, hline, rest, hrest, hup⟩
    · have hall : line ++ (rest.take (min n 8192) ++ rest.drop (min n 8192)) = body ++ [10] ++ [] := by
        rw [List.take_append_drop, hrest, htarget, List.append_nil]
      cases hsplit : splitOnce [10] (rest.take (min n 8192)) with
      | some parts =>
        obtain ⟨last, more⟩ := parts
        -- the line break was the last byte that the enclave sent
        obtain ⟨-, hnone⟩ := line_eq_of_splitOnce hline hbody hsplit hall
        obtain ⟨-, hdrop⟩ := List.append_eq_nil_iff.1 hnone
        simp only [greet]
        cases checkTarget allowlist (line ++ last ++ [10]) with
        | error message => trivial
        | ok dial => exact ⟨hclient, hdown, by rw [hdrop]; rfl⟩
      | none =>
        refine ⟨hclient, hdown, ?_, rest.drop (min n 8192), ?_, rfl⟩
        · exact fun hmem => (List.mem_append.1 hmem).elim hline (not_mem_of_splitOnce_singleton hsplit)
        · rw [List.append_assoc, List.take_append_drop, hrest]
  | dialing | relaying | ended | refused =>
    simp only [next, hrelay]
    exact h

theorem Inv.connect (h : w.Inv target) (error : Option String) :
    (w.next allowlist (.connect error)).Inv target := by
  cases hrelay : w.relay with
  | dialing host port =>
    unfold Inv at h
    rw [hrelay] at h
    obtain ⟨hclient, hdown, hup⟩ := h
    cases error with
    | some error =>
      simp only [next, hrelay]
      trivial
    | none =>
      simp only [next, hrelay]
      refine Copying.inv ⟨?_, ?_, ?_, ?_⟩ (.inl rfl)
      · rintro (_ | _)
        · show w.up.Flows _ _
          rw [hup]
          rfl
        · simp only [skimmed, hclient, pump, hdown]
          rfl
      · rintro (_ | _)
        · show w.up.Sound
          rw [hup]
          exact ⟨fun _ => rfl, nofun⟩
        · simp only [pump, hdown]
          exact ⟨fun _ => rfl, nofun⟩
      · intro line hline
        rw [show w.client = .status line from hline] at hclient
        cases hclient
        exact ⟨List.not_mem_nil, by rw [hdown]; rfl⟩
      · rw [hclient]
        nofun
  | target | relaying | ended | refused =>
    simp only [next, hrelay]
    exact h

/-- The read that ends the status line: what came before it, and what it brings too much. -/
theorem Copying.status_eq (h : w.Copying) {line last rest : List UInt8} {n : ℕ}
    (hclient : w.client = .status line) (hsplit : splitOnce [10] (w.chunk n) = some (last, rest)) :
    line ++ last ++ [10] = okLine ∧
      (w.down.skim (min n 8192)).Flows okLine (okLine ++ rest) := by
  obtain ⟨hline, hreceived⟩ := h.waits line hclient
  have hflow := h.flows .target
  simp only [pump, Side.first, skimmed, hclient] at hflow
  have hskim := hflow.skim hreceived (min n 8192)
  have hall : line ++ (w.chunk n ++ (w.down.skim (min n 8192)).onTheWay)
      = [79, 75] ++ [10] ++ w.down.sent := by
    rw [Pump.Flows, List.append_assoc] at hskim
    simp only [Pump.skim, hreceived, List.nil_append] at hskim
    exact hskim.symm
  obtain ⟨hok, -⟩ := line_eq_of_splitOnce hline (by decide) hsplit hall
  obtain ⟨hchunk, -⟩ := splitOnce_singleton_eq_some hsplit
  rw [hok]
  refine ⟨rfl, ?_⟩
  rw [show w.down.outlet.queue.take (min n 8192) = last ++ 10 :: rest from hchunk,
    ← List.append_assoc, hok] at hskim
  exact hskim

theorem checkStatus_okLine : checkStatus okLine = .opened := by decide +kernel

/-- A read of the status line that brings nothing after it. -/
theorem Copying.status (h : w.Copying) {n : ℕ} (hsafe : ∀ line, w.client = .status line →
    ∀ last rest, splitOnce [10] (w.chunk n) = some (last, rest) → rest = []) :
    (w.next allowlist (.status n)).Copying := by
  cases hclient : w.client with
  | status line =>
    obtain ⟨hline, hreceived⟩ := h.waits line hclient
    have hflow := h.flows .target
    simp only [pump, Side.first, skimmed, hclient] at hflow
    have hsound : (w.down.skim (min n 8192)).Sound := ⟨(h.sound .target).opened, (h.sound .target).ended⟩
    simp only [next, hclient]
    split
    · rw [if_neg]
      · exact h
      · -- the status line is on its way, so this is not the end
        intro hend
        have hwhole := ((h.sound .target).lossless hflow).whole (congrArg Wire.closed hend)
        simp only [pump, hreceived, hend, List.append_nil] at hwhole
        exact hline (by rw [← hwhole.2]; simp [okLine])
    · cases hsplit : splitOnce [10] (w.chunk n) with
      | some parts =>
        obtain ⟨last, rest⟩ := parts
        obtain ⟨hok, hskim⟩ := h.status_eq hclient hsplit
        rw [hsafe line hclient last rest hsplit, List.append_nil] at hskim
        simp only [hok, checkStatus_okLine]
        refine ⟨?_, ?_, nofun, nofun⟩
        · rintro (_ | _)
          · exact h.flows .enclave
          · exact hskim
        · rintro (_ | _)
          · exact h.sound .enclave
          · exact hsound
      | none =>
        refine ⟨?_, ?_, ?_, nofun⟩
        · rintro (_ | _)
          · exact h.flows .enclave
          · exact hflow.skim hreceived _
        · rintro (_ | _)
          · exact h.sound .enclave
          · exact hsound
        · rintro _ ⟨⟩
          exact ⟨fun hmem => (List.mem_append.1 hmem).elim hline
            (not_mem_of_splitOnce_singleton hsplit), hreceived⟩
  | opened | refused =>
    simp only [next, hclient]
    exact h

/-! ### Copying -/

theorem pump_setPump (p : Pump) (side' : Side) :
    (w.setPump p side).pump side' = if side' = side then p else w.pump side' := by
  cases side <;> cases side' <;> rfl

/-- A step of one of the two streams. -/
theorem Copying.setPump (h : w.Copying) {p : Pump} (hflow : p.Flows side.first (w.skimmed side))
    (hsound : p.Sound)
    (hreceived : side = .target → p.received = w.down.received ∨ w.client = .opened) :
    (w.setPump p side).Copying := by
  have hclient : (w.setPump p side).client = w.client := by cases side <;> rfl
  have hskimmed : (w.setPump p side).skimmed = w.skimmed := by
    funext side'
    cases side' <;> simp only [skimmed, hclient]
  refine ⟨fun side' => ?_, fun side' => ?_, fun line hline => ?_, by rw [hclient]; exact h.trusts⟩
  · rw [pump_setPump, hskimmed]
    split
    · next heq => rwa [heq]
    · exact h.flows side'
  · rw [pump_setPump]
    split
    · exact hsound
    · exact h.sound side'
  · rw [hclient] at hline
    obtain ⟨hbreak, hnone⟩ := h.waits line hline
    refine ⟨hbreak, ?_⟩
    cases side with
    | enclave => exact hnone
    | target =>
      rcases hreceived rfl with hreceived | hopened
      · exact hreceived.trans hnone
      · rw [hline] at hopened
        cases hopened

/-- The last step of the relay keeps the bytes where the other direction is drained. -/
theorem Copying.stop (h : w.Copying) (hdrained : ∀ side, (w.pump side).Drained) :
    { w with relay := .ended, up := w.up.stop, down := w.down.stop : World }.Copying where
  flows side := by
    cases side
    · exact (hdrained .enclave).flows_stop (h.flows .enclave)
    · exact (hdrained .target).flows_stop (h.flows .target)
  sound side := by
    cases side
    · exact (hdrained .enclave).sound_stop
    · exact (hdrained .target).sound_stop
  waits := h.waits
  trusts := h.trusts

/-- A loop that found the end is drained. -/
theorem Copying.drained (h : w.Copying) (hloop : (w.pump side).loop = .closing) :
    (w.pump side).Drained :=
  ⟨(h.sound side).ended (.inl hloop), by rw [hloop]; rfl⟩

/-- Before the relay is connected there is nobody to send, to read or to copy. -/
theorem Inv.quiet (h : w.Inv target) (hest : ¬ w.Established) (hrefused : w.relay ≠ .refused)
    {act : Act} (hact : ∀ n error, act ≠ .accept n ∧ act ≠ .connect error) :
    (w.next allowlist act).Inv target := by
  obtain ⟨hclient, hdown⟩ : w.client = .status [] ∧ w.down = .fresh := by
    unfold Inv at h
    cases hrelay : w.relay with
    | target line => rw [hrelay] at h; exact ⟨h.1, h.2.1⟩
    | dialing host port => rw [hrelay] at h; exact ⟨h.1, h.2.1⟩
    | relaying => exact absurd (.inl hrelay) hest
    | ended => exact absurd (.inr hrelay) hest
    | refused => exact absurd hrelay hrefused
  have hrelaying : w.relay ≠ .relaying := fun h => hest (.inl h)
  have hconnected : ∀ side, ¬ w.Connected side := by
    rintro (_ | _)
    · simp [Connected, hclient]
    · exact hest
  have hsame : w.next allowlist act = w := by
    cases act with
    | status n => simp [next, hclient, chunk, hdown, Pump.fresh]
    | accept n => exact absurd rfl (hact n none).1
    | connect error => exact absurd rfl (hact 0 error).2
    | send side bytes => exact if_neg (hconnected side)
    | close side => exact if_neg (hconnected side)
    | read side n => exact if_neg hrelaying
    | write side n => exact if_neg hrelaying
    | finish side => exact if_neg fun h => hrelaying h.1
    | take side n => exact if_neg (hconnected side.other)
  rwa [hsame]

/-- After the handshake the relay copies, has copied, or has given up. -/
theorem relay_next (allowlist : List (List Char)) (htarget : ∀ line, w.relay ≠ .target line)
    (hdialing : ∀ host port, w.relay ≠ .dialing host port) (act : Act) :
    (w.next allowlist act).relay = w.relay ∨
      w.relay = .relaying ∧ (w.next allowlist act).relay = .ended := by
  have hset : ∀ p side, (w.setPump p side).relay = w.relay := fun p side => by cases side <;> rfl
  cases act with
  | status n =>
    simp only [next]
    split
    · split
      · split <;> exact .inl rfl
      · split <;> exact .inl rfl
    · exact .inl rfl
  | accept n => exact .inl (by simp only [next])
  | connect error =>
    simp only [next]
    split
    · next hrelay => exact absurd hrelay (hdialing _ _)
    · next hrelay => exact absurd hrelay (hdialing _ _)
    · exact .inl rfl
  | finish side =>
    simp only [next]
    split
    · next hdone => exact .inr ⟨hdone.1, rfl⟩
    · exact .inl rfl
  | send | close | read | write | take =>
    simp only [next]
    split
    · exact .inl (hset _ _)
    · exact .inl rfl

theorem established_next (hest : w.Established) (act : Act) : (w.next allowlist act).Established := by
  have hnext := relay_next allowlist (w := w)
    (fun line h => by rcases hest with hrelay | hrelay <;> cases hrelay.symm.trans h)
    (fun host port h => by rcases hest with hrelay | hrelay <;> cases hrelay.symm.trans h) act
  rcases hnext with hsame | ⟨-, hended⟩
  · exact hest.imp hsame.trans hsame.trans
  · exact .inr hended

/-- A step of a connected relay. -/
theorem Copying.next (h : w.Copying) (hest : w.Established) {act : Act} (hsafe : w.Safe act) :
    (w.next allowlist act).Copying := by
  cases act with
  | status n => exact h.status fun line hline => hsafe hest line hline
  | accept n => rcases hest with hrelay | hrelay <;> simp only [World.next, hrelay] <;> exact h
  | connect error => rcases hest with hrelay | hrelay <;> simp only [World.next, hrelay] <;> exact h
  | send side bytes =>
    simp only [World.next]
    split
    · refine h.setPump ((h.flows side).send bytes) ((h.sound side).send bytes) fun hside => .inl ?_
      subst hside
      exact Pump.received_send _ _
    · exact h
  | close side =>
    simp only [World.next]
    split
    · exact h.setPump (h.flows side) (h.sound side).close fun hside => .inl (by subst hside; rfl)
    · exact h
  | read side n =>
    simp only [World.next]
    split
    · refine h.setPump ((h.flows side).read _) ((h.sound side).read _) fun hside => .inl ?_
      subst hside
      exact Pump.received_read _ _
    · exact h
  | write side n =>
    simp only [World.next]
    split
    · refine h.setPump ((h.flows side).write n) ((h.sound side).write n) fun hside => .inl ?_
      subst hside
      exact Pump.received_write _ _
    · exact h
  | finish side =>
    simp only [World.next]
    split
    · next hdone =>
      have hother := hsafe hdone.1 hdone.2
      refine h.stop fun side' => ?_
      cases side <;> cases side' <;> first | exact h.drained hdone.2 | exact hother
    · exact h
  | take side n =>
    simp only [World.next]
    split
    · next hconnected =>
      refine h.setPump ((h.flows side).take n) ⟨(h.sound side).opened, (h.sound side).ended⟩
        fun hside => .inr ?_
      subst hside
      exact hconnected
    · exact h

theorem Inv.next (h : w.Inv target) {act : Act} (hsafe : w.Safe act) :
    (w.next allowlist act).Inv target := by
  by_cases hest : w.Established
  · exact ((h.copying hest).next hest hsafe).inv (established_next hest act)
  by_cases hrefused : w.relay = .refused
  · rcases relay_next allowlist (w := w) (by simp [hrefused]) (by simp [hrefused]) act
      with hsame | ⟨hrelaying, -⟩
    · unfold Inv
      rw [hsame, hrefused]
      trivial
    · cases hrefused.symm.trans hrelaying
  cases act with
  | accept n => exact h.accept n
  | connect error => exact h.connect error
  | status | send | close | read | write | finish | take =>
    exact h.quiet hest hrefused fun _ _ => ⟨nofun, nofun⟩

/-- A step to a state without a loss was safe. -/
theorem Inv.safe (h : w.Inv target) {act : Act} (hnext : (w.next allowlist act).Lossless) :
    w.Safe act := by
  cases act with
  | status n =>
    intro hest line hclient last rest hsplit
    have hcopy := h.copying hest
    have hchunk : w.chunk n ≠ [] := by
      obtain ⟨heq, -⟩ := splitOnce_singleton_eq_some hsplit
      simp [heq]
    obtain ⟨hok, hskim⟩ := hcopy.status_eq hclient hsplit
    have hlossless := hnext (established_next hest _) .target
    simp only [World.next, hclient, if_neg hchunk, hsplit, hok, checkStatus_okLine] at hlossless
    have hflow : (w.down.skim (min n 8192)).Flows okLine okLine := hlossless.flows
    rw [Pump.Flows] at hskim hflow
    rw [hskim, List.append_assoc] at hflow
    exact List.append_left_eq_self.1 (List.append_cancel_left hflow)
  | finish side =>
    intro hrelay hloop
    have hest : w.Established := .inl hrelay
    have hlossless := hnext (established_next hest _) side.other
    simp only [World.next, if_pos (show w.relay = .relaying ∧ _ from ⟨hrelay, hloop⟩)] at hlossless
    have hflow := (h.copying hest).flows side.other
    cases side with
    | enclave => exact (Pump.lossless_stop_iff hflow).1 hlossless
    | target => exact (Pump.lossless_stop_iff hflow).1 hlossless
  | accept | connect | send | close | read | write | take => trivial

/-! ### Delivery -/

/-- The relay passes on what it has and what waits, and the reader takes it. -/
def drain (w : World) (side : Side) : List Act :=
  .write side (w.pump side).loop.held.length ::
    ((List.replicate (w.pump side).inlet.queue.length [Act.read side 1, .write side 1]).flatten ++
      [.take side (w.pump side).onTheWay.length])

theorem setPump_setPump (p q : Pump) : (w.setPump p side).setPump q side = w.setPump q side := by
  cases side <;> rfl

theorem setPump_pump : w.setPump (w.pump side) side = w := by cases side <;> rfl

theorem pump_setPump_self (p : Pump) : (w.setPump p side).pump side = p := by
  rw [pump_setPump, if_pos rfl]

theorem relay_setPump (p : Pump) : (w.setPump p side).relay = w.relay := by cases side <;> rfl

theorem connected_setPump (p : Pump) (side' : Side) :
    (w.setPump p side).Connected side' ↔ w.Connected side' := by
  cases side <;> cases side' <;> exact .rfl

/-- The loop copies byte by byte. -/
theorem run_copyBytes (hrelay : w.relay = .relaying) (side : Side) (k : ℕ) :
    runSteps (World.next allowlist) w (List.replicate k [Act.read side 1, .write side 1]).flatten
      = w.setPump ((w.pump side).copyBytes k) side := by
  induction k generalizing w with
  | zero => exact setPump_pump.symm
  | succ k ih =>
    have hstep : next allowlist (next allowlist w (.read side 1)) (.write side 1)
        = w.setPump (((w.pump side).read 1).write 1) side := by
      rw [next, if_pos hrelay, next, if_pos (by rw [relay_setPump, hrelay]), pump_setPump_self,
        setPump_setPump]
      rfl
    show runSteps (World.next allowlist) (next allowlist (next allowlist w (.read side 1)) (.write side 1))
      (List.replicate k [Act.read side 1, .write side 1]).flatten = _
    rw [hstep, ih (by rw [relay_setPump, hrelay]), pump_setPump_self, setPump_setPump]
    rfl

/-- **While the relay copies, everything that was sent can still be received.** -/
theorem Copying.drain (h : w.Copying) (hrelay : w.relay = .relaying) (hopened : w.client = .opened)
    (side : Side) :
    ((runSteps (World.next allowlist) w (w.drain side)).pump side).received
      = (w.pump side).sent := by
  have hconnected : w.Connected side.other := by
    cases side
    · exact .inl hrelay
    · exact hopened
  have hrun : runSteps (World.next allowlist) w (w.drain side)
      = w.setPump (w.pump side).flush side := by
    have hwrite : World.next allowlist w (.write side (w.pump side).loop.held.length)
        = w.setPump ((w.pump side).write (w.pump side).loop.held.length) side := if_pos hrelay
    rw [World.drain, runSteps, List.foldl_cons, List.foldl_append, hwrite]
    have hcopy : runSteps (World.next allowlist) _ _ = _ :=
      run_copyBytes (w := w.setPump ((w.pump side).write (w.pump side).loop.held.length) side)
        (by rw [relay_setPump, hrelay]) side (w.pump side).inlet.queue.length
    rw [runSteps] at hcopy
    rw [hcopy, pump_setPump_self, setPump_setPump, List.foldl_cons, List.foldl_nil, World.next,
      if_pos ((connected_setPump ..).2 hconnected), pump_setPump_self, setPump_setPump]
    rfl
  have hflush := (h.sound side).flush (h.flows side)
  rw [hrun, pump_setPump_self]
  cases side with
  | enclave => exact hflush.symm
  | target =>
    simp only [skimmed, hopened] at hflush
    exact (List.append_cancel_left hflush).symm

end World

open World in
/-- **The relay is a lossless pipe exactly in the runs whose steps are safe**, whatever the target,
the splitting into reads and the order of the steps.  As long as it copies, what a side has sent
can be received whole. -/
theorem egress_lossless_iff (allowlist : List (List Char)) (target : Target) (acts : List Act) :
    ((∀ n, (runSteps (next allowlist) (start target) (acts.take n)).Lossless) ↔
      AllSteps (next allowlist) Safe (start target) acts) ∧
    (AllSteps (next allowlist) Safe (start target) acts →
      let w := runSteps (next allowlist) (start target) acts
      w.relay = .relaying → w.client = .opened → ∀ side,
        ((runSteps (next allowlist) w (w.drain side)).pump side).received = (w.pump side).sent) := by
  constructor
  · exact forall_take_iff_allSteps (I := Inv target) (fun _ h => h.lossless) (fun _ _ h => h.next)
      (fun _ _ h => h.safe) (inv_start target) acts
  · intro hsafe w hrelay hopened side
    have hinv : w.Inv target := hsafe.keep (fun _ _ h => h.next) (inv_start target)
    exact (hinv.copying (.inl hrelay)).drain hrelay hopened side

namespace Sample

/-- A target. -/
def shop : Target := ⟨"shop", 443, rfl⟩

/-- The handshake up to the relay's answer. -/
def dialed : List Act := [.accept 9, .connect none]

/-- The target speaks first, and its greeting comes with the status line. -/
def greeted : List Act :=
  dialed ++ [.send .target [104, 105], .read .target 9, .write .target 9, .status 9]

/-- The target has sent its answer and is done while the request is on its way. -/
def answered : List Act :=
  dialed ++ [.status 9, .send .enclave [112], .close .target, .read .target 9, .finish .target]

end Sample

open World Sample in
/-- **A greeting that comes with the status line is lost, and a target that is done cuts off the
enclave**: the enclave has its stream, and of the two bytes of the target none has arrived or is
on its way; the byte of the enclave is not passed on, and the target finds the end. -/
theorem Sample.bytes_lost :
    (let w := runSteps (next []) (start shop) greeted
     w.client = .opened ∧ w.down.sent = [104, 105] ∧ w.down.received = [] ∧ w.down.onTheWay = []) ∧
    (let w := runSteps (next []) (start shop) answered
     w.client = .opened ∧ w.up.sent = [112] ∧ w.up.inlet.closed = false ∧ w.up.received = [] ∧
       w.up.outlet = ⟨[], true⟩) := by
  decide +kernel

end Egress
end Subly402
