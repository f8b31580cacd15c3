import RcDiscover.Gui.Inputs
import RcDiscover.Wol

/-!
# `tools/rcdiscover-gui/reset_window.cc`: sending a reset

The reset window takes the MAC address from its input field, splits it into bytes, asks the user and
sends the magic packet as often as the user wants.  The command line hands the number itself to
`WOL`.

`handsOut_both_routes` (**main result**): the two send the same packet for the same device.
-/

namespace RcDiscover

/-- `SocketException::what`. -/
def SocketException.what : SocketException → Str
  | .socketException msg errnum => msg ++ " - ".toList ++ (toString errnum).toList
  | .networkUnreachableException msg errnum => msg ++ " - ".toList ++ (toString errnum).toList

namespace Gui

open Program BigEndian
open Discover (Tolerated)
open WOL (HandsOut)

/-! ### The window -/

/-- The sockets, and the dialogs that FLTK shows.  What the user answers comes separately. -/
structure DialogEnv (σ : Type) extends WolEnv σ where
  dialog : Str → σ → σ

/-- The environment that also records the calls of `send`. -/
def DialogEnv.logged {σ : Type} (env : DialogEnv σ) : DialogEnv (σ × List SendCall) where
  toWolEnv := env.toWolEnv.logged
  dialog text s := (env.dialog text s.1, s.2)

/-- The `WOL` object of `sendUDPRequest`. -/
def resetWol (macValue : UInt64) : WOL :=
  .ofArray #v[(macValue >>> 40).toUInt8, (macValue >>> 32).toUInt8, (macValue >>> 24).toUInt8,
    (macValue >>> 16).toUInt8, (macValue >>> 8).toUInt8, macValue.toUInt8] 9

section Request

variable {σ : Type} (env : DialogEnv σ)

/-- `fl_choice` or `fl_alert` with this text. -/
def openDialog (text : Str) : Program σ WolException Unit :=
  ofState fun s => ((), env.dialog text s)

/-- The loop of `sendUDPRequest`, with the answers that the user gives to its dialogs: the last one
is still open when there is no further answer. -/
def resetLoop (wol : WOL) (password : Vector UInt8 4) : List ℤ → Program σ WolException Unit
  | [] => pure ()
  | answer :: answers =>
    if answer = 1 then do
      wol.send env.toWolEnv password
      openDialog env ("Please check whether rc_visard's LED turned white and whether rc_visard " ++
        "is rebooting.").toList
      resetLoop wol password answers
    else pure ()

/-- `sendUDPRequest`. -/
def sendUDPRequest (answers : List ℤ) (macString : Str) (macValue : UInt64) (funcName : Str)
    (funcId : UInt8) : Program σ WolException Unit :=
  if macValue ≠ 0 then
    tryCatch (do
      openDialog env ("Are you sure to ".toList ++ funcName ++
        " of rc_visard with MAC-address ".toList ++ macString ++ "?".toList)
      resetLoop env (resetWol macValue) #v[0xEE, 0xEE, 0xEE, funcId] answers) fun
      | .operationNotPermitted =>
        openDialog env
          "rcdiscover probably requires root/admin privileges for this operation.".toList
      | .socket e => openDialog env e.what
  else pure ()

end Request

/-! ### What is sent -/

section Sent

variable {σ : Type} {env : DialogEnv σ} {p : Bytes} {P : List SendCall → Prop}

/-- The calls of `send` so far have a property. -/
def SoFar (P : List SendCall → Prop) (s : σ × List SendCall) : Prop := P s.2

/-- Further calls with the datagram `p` keep the property. -/
def Continues (p : Bytes) (P : List SendCall → Prop) : Prop :=
  ∀ log calls, P log → (∀ c ∈ calls, c.packet = p) → P (log ++ calls)

theorem continues_packet (p : Bytes) : Continues p fun log => ∀ c ∈ log, c.packet = p := by
  intro log calls hlog hcalls c hc
  rcases List.mem_append.1 hc with hc | hc
  · exact hlog c hc
  · exact hcalls c hc

theorem continues_prefix (p : Bytes) (first : List SendCall) : Continues p (first <+: ·) :=
  fun _ _ hlog _ => hlog.trans (List.prefix_append _ _)

theorem ensures_openDialog (text : Str) :
    Ensures (SoFar P) (openDialog env.logged text) (fun _ => SoFar P) fun _ => SoFar P :=
  ensures_ofState fun _ h => h

theorem ensures_send (hP : Continues p P) (wol : WOL) (password : Vector UInt8 4)
    (hp : wol.appendMagicPacket [] (some password) = p) :
    Ensures (SoFar P) (wol.send env.logged.toWolEnv password) (fun _ => SoFar P)
      fun _ => SoFar P := by
  rintro ⟨s, log⟩ hlog
  obtain ⟨calls, res, u, hrun, hpackets, -⟩ := WOL.send_logged env.toWolEnv wol password s log
  have hall : SoFar P (u, log ++ calls) :=
    hP log calls hlog fun c hc => (hpackets c hc).trans hp
  have hrun : exec (wol.send env.logged.toWolEnv password) (s, log) =
      (res, (u, log ++ calls)) := hrun
  rw [hrun]
  cases res <;> exact hall

theorem ensures_resetLoop (hP : Continues p P) (wol : WOL) (password : Vector UInt8 4)
    (hp : wol.appendMagicPacket [] (some password) = p) (answers : List ℤ) :
    Ensures (SoFar P) (resetLoop env.logged wol password answers) (fun _ => SoFar P)
      fun _ => SoFar P := by
  induction answers with
  | nil => exact ensures_pure fun _ h => h
  | cons answer answers ih =>
    refine Ensures.ite (fun _ => ?_) fun _ => ensures_pure fun _ h => h
    exact (ensures_send hP wol password hp).bind fun _ => (ensures_openDialog _).bind fun _ => ih

variable (env) in
/-- **A request of the window** hands out the magic packet only. -/
theorem ensures_sendUDPRequest (hP : Continues p P) (answers : List ℤ) (macString : Str)
    (macValue : UInt64) (funcName : Str) (funcId : UInt8)
    (hp : (resetWol macValue).appendMagicPacket [] (some #v[0xEE, 0xEE, 0xEE, funcId]) = p) :
    Ensures (SoFar P) (sendUDPRequest env.logged answers macString macValue funcName funcId)
      (fun _ => SoFar P) fun _ => SoFar P := by
  refine Ensures.ite (fun _ => ?_) fun _ => ensures_pure fun _ h => h
  refine Ensures.tryCatch ((ensures_openDialog _).bind fun _ =>
    ensures_resetLoop hP (resetWol macValue) _ hp answers) fun e => ?_
  cases e with
  | operationNotPermitted => exact ensures_openDialog _
  | socket e => exact ensures_openDialog _

/-- **A request that the user agrees to** begins with what a call of `send` hands out. -/
theorem ensures_agreed {macString funcName : Str} {macValue : UInt64} {funcId : UInt8} {s u : σ}
    {first : List SendCall} {res : Except WolException Unit} (hne : macValue ≠ 0)
    (hsend : exec ((resetWol macValue).send env.logged.toWolEnv #v[0xEE, 0xEE, 0xEE, funcId])
      (env.dialog ("Are you sure to ".toList ++ funcName ++
        " of rc_visard with MAC-address ".toList ++ macString ++ "?".toList) s, []) =
          (res, (u, first))) (later : List ℤ) :
    Ensures (fun x => x = (s, []))
      (sendUDPRequest env.logged (1 :: later) macString macValue funcName funcId)
      (fun _ => SoFar (first <+: ·)) fun _ => SoFar (first <+: ·) := by
  have hP := continues_prefix
    ((resetWol macValue).appendMagicPacket [] (some #v[0xEE, 0xEE, 0xEE, funcId])) first
  rw [sendUDPRequest, if_pos hne]
  refine Ensures.tryCatch (F := fun _ => SoFar (first <+: ·)) ?_ fun e => ?_
  · refine Ensures.bind (Q := fun _ x => exec ((resetWol macValue).send env.logged.toWolEnv
      #v[0xEE, 0xEE, 0xEE, funcId]) x = (res, (u, first))) ?_ fun _ => ?_
    · refine ensures_ofState ?_
      rintro _ rfl
      exact hsend
    · rw [resetLoop, if_pos rfl]
      refine Ensures.bind (Q := fun _ => SoFar (first <+: ·)) ?_ fun _ =>
        (ensures_openDialog _).bind fun _ => ensures_resetLoop hP (resetWol macValue) _ rfl later
      intro x hx
      rw [hx]
      cases res <;> exact List.prefix_refl first
  · cases e with
    | operationNotPermitted => exact ensures_openDialog _
    | socket e => exact ensures_openDialog _

end Sent

theorem toList_resetWol (m : UInt64) : (resetWol m).hardwareAddr.toList = digits 6 m.toNat := by
  rw [← shiftRight_uint64_eq_digits]
  rfl

/-- Six bytes `0xFF`, sixteen copies of the bytes of the address `m`, most significant first, and
the password `w`. -/
def magicPacket (m : UInt64) (w : Vector UInt8 4) : Bytes :=
  List.replicate 6 0xFF ++ (List.replicate 16 (digits 6 m.toNat)).flatten ++ w.toList

/-- **Command line and window send the same magic packet** for the same device, on every socket and
whichever networks are unreachable; the window sends it as soon as the user agrees. -/
theorem handsOut_both_routes (m : UInt64) (hpos : 0 < m) (hlt : m.toNat < 2 ^ 48) (port : UInt16)
    (w : Vector UInt8 4) :
    HandsOut (.ofNumber m port) w (magicPacket m w) ∧
    ∀ info : DeviceInfo, info.mac = m →
      let macString := threadMac info
      let macValue := InputMAC.getMAC ⟨macString⟩
      macValue ≠ 0 ∧ HandsOut (resetWol macValue) w (magicPacket m w) ∧
      ∀ (σ : Type) (env : DialogEnv σ) (answers : List ℤ) (funcName : Str) (funcId : UInt8) (s : σ),
        w = #v[0xEE, 0xEE, 0xEE, funcId] →
          let calls := (exec (sendUDPRequest env.logged answers macString macValue funcName funcId)
            (s, [])).2.2
          (∀ c ∈ calls, c.packet = magicPacket m w) ∧
          ∀ n t, answers.head? = some 1 →
            env.createAndBindForAllInterfaces 9 (env.dialog ("Are you sure to ".toList ++ funcName ++
              " of rc_visard with MAC-address ".toList ++ macString ++ "?".toList) s) = (.ok n, t) →
            env.SetsUp → (∀ c ∈ calls, Tolerated c.thrown) →
              List.range n <+: calls.map SendCall.socket := by
  have hnumber : (WOL.ofNumber m port).appendMagicPacket [] (some w) = magicPacket m w := by
    rw [WOL.appendMagicPacket_eq, WOL.ofNumber, WOL.toList_toByteArray, magicPacket]
  have hreset : (resetWol m).appendMagicPacket [] (some w) = magicPacket m w := by
    rw [WOL.appendMagicPacket_eq, toList_resetWol, magicPacket]
  refine ⟨hnumber ▸ WOL.handsOut_magicPacket _ w, ?_⟩
  rintro info rfl macString macValue
  have hvalue : macValue = info.mac := by
    change InputMAC.getMAC ⟨threadMac info⟩ = info.mac
    rw [threadMac_eq, getMAC_mac2string hlt]
  have hne : info.mac ≠ 0 := (UInt64.ne_of_lt hpos).symm
  rw [hvalue]
  refine ⟨hne, hreset ▸ WOL.handsOut_magicPacket _ w, ?_⟩
  rintro σ env answers funcName funcId s rfl calls
  constructor
  · exact (ensures_sendUDPRequest env (continues_packet _) answers macString info.mac funcName
      funcId hreset).always (by simp [SoFar])
  · intro n t hagreed hcreate hup htolerated
    obtain ⟨later, rfl⟩ := List.head?_eq_some_iff.mp hagreed
    obtain ⟨first, res, u, hsend, -, hok⟩ := WOL.send_logged env.toWolEnv (resetWol info.mac)
      #v[0xEE, 0xEE, 0xEE, funcId] (env.dialog ("Are you sure to ".toList ++ funcName ++
        " of rc_visard with MAC-address ".toList ++ macString ++ "?".toList) s) []
    have hfirst : first <+: calls :=
      (ensures_agreed hne (hsend.trans (by rw [List.nil_append])) later).always rfl
    rw [← (hok n t hcreate hup fun c hc => htolerated c (hfirst.subset hc)).2]
    exact hfirst.map SendCall.socket

/-- A reset of all parameters of a sensor, on both routes. -/
theorem handsOut_reset_all :
    let p := List.replicate 6 0xFF ++
      (List.replicate 16 [0x00, 0x14, 0x2D, 0x00, 0x00, 0x01]).flatten ++ [0xEE, 0xEE, 0xEE, 0xFF]
    HandsOut (.ofNumber 0x00142D000001 9) #v[0xEE, 0xEE, 0xEE, 0xFF] p ∧
      HandsOut (resetWol (InputMAC.getMAC
        ⟨threadMac { DeviceInfo.ofIfaceName [] with mac := 0x00142D000001 }⟩))
        #v[0xEE, 0xEE, 0xEE, 0xFF] p :=
  have h := handsOut_both_routes 0x00142D000001 (by decide) (by decide) 9 #v[0xEE, 0xEE, 0xEE, 0xFF]
  ⟨h.1, (h.2 _ rfl).2.1⟩

end Gui
end RcDiscover
