import RcDiscover.Lib.BigEndian
import RcDiscover.Lib.Program
import RcDiscover.RequestCounter
import RcDiscover.Socket

/-!
# `rcdiscover/gvcp_ip_config.cc`: the client

`GvcpIPConfig` reads and writes bootstrap registers of a device with READREG and WRITEREG
requests over UDP.  The functions of the file are programs over an arbitrary environment
`SocketEnv σ`: what the request counter returns, whether `send` throws, whether `select` sees
a datagram and which one `recvfrom` delivers may depend on everything that happened before.
-/

namespace RcDiscover
namespace Gvcp

open Program

/-- What the functions of the file throw or let pass: an exception of `socket_.send`,
`GvcpAccessDeniedException`, or another `std::runtime_error`. -/
inductive GvcpException
  | socket (e : SocketException)
  | accessDenied (msg : Str)
  | runtimeError (msg : Str)
  deriving DecidableEq, Repr

/-- The calls that leave the file: the request counter and the socket of the object. -/
structure SocketEnv (σ : Type) where
  getNext : σ → RequestId × σ
  send : Bytes → σ → Except SocketException Unit × σ
  /-- `select(…) > 0` after at most 500 ms. -/
  select : σ → Bool × σ
  /-- `none` is a negative result of `recvfrom`. -/
  recvfrom : σ → Option Datagram × σ

/-! ### Constants -/

def readregCmd : UInt16 := 0x0080
def readregAck : UInt16 := 0x0081
def writeregCmd : UInt16 := 0x0082
def writeregAck : UInt16 := 0x0083

def gevStatusAccessDenied : UInt16 := 0x8006

def gevCcp : UInt32 := 0x00000A00
def gevCurrentIpConfiguration : UInt32 := 0x00000014
def gevPersistentIpAddress : UInt32 := 0x0000064C
def gevPersistentSubnetMask : UInt32 := 0x0000065C
def gevPersistentDefaultGateway : UInt32 := 0x0000066C

def ipconfigPersistentIpBit : UInt32 := (1 : UInt32) <<< 0
def ipconfigDhcpBit : UInt32 := (1 : UInt32) <<< 1
def ipconfigLlaBit : UInt32 := (1 : UInt32) <<< 2

/-! ### Framing -/

/-- `appendUint32`. -/
def appendUint32 (v : Bytes) (value : UInt32) : Bytes :=
  v ++ [(value >>> 24).toUInt8, (value >>> 16).toUInt8, (value >>> 8).toUInt8, value.toUInt8]

/-- `extractUint32`. -/
def extractUint32 (p : Bytes) : UInt32 :=
  (byteAt p 0).toUInt32 <<< 24 ||| (byteAt p 1).toUInt32 <<< 16 |||
    (byteAt p 2).toUInt32 <<< 8 ||| (byteAt p 3).toUInt32

/-- The request datagram that `sendAndReceive` builds. -/
def packet (cmd : UInt16) (reqId : RequestId) (payload : Bytes) : Bytes :=
  0x42 :: 0x01 :: (cmd >>> 8).toUInt8 :: cmd.toUInt8 :: UInt8.ofNat (payload.length >>> 8) ::
    UInt8.ofNat payload.length :: reqId.1 :: reqId.2 :: payload

/-- The exception for a reply with a status other than 0. -/
def statusError (status cmd : UInt16) (address : UInt32) : GvcpException :=
  let msg := "Device returned error status 0x".toList ++ hex status.toNat ++
    " for GVCP command 0x".toList ++ hex cmd.toNat ++ " on register 0x".toList ++ hex address.toNat
  if status = gevStatusAccessDenied then .accessDenied msg else .runtimeError msg

/-- The exception after three attempts without a usable reply. -/
def noResponse (cmd : UInt16) (address : UInt32) : GvcpException :=
  .runtimeError ("Device did not respond to GVCP command 0x".toList ++ hex cmd.toNat ++
    " on register 0x".toList ++ hex address.toNat)

/-- The checks of `sendAndReceive` on a received datagram `p`.  `none`: not a usable reply to
this request, the loop goes on. -/
def checkReply (cmd expectedAckCmd : UInt16) (address : UInt32) (reqId : RequestId) (p : Bytes) :
    Option (Except GvcpException Bytes) :=
  if 8 ≤ p.length then
    let len := (byteAt p 4).toNat <<< 8 ||| (byteAt p 5).toNat
    let ackCmd := (byteAt p 2).toUInt16 <<< 8 ||| (byteAt p 3).toUInt16
    if ackCmd = expectedAckCmd ∧ byteAt p 6 = reqId.1 ∧ byteAt p 7 = reqId.2 then
      let status := (byteAt p 0).toUInt16 <<< 8 ||| (byteAt p 1).toUInt16
      if status ≠ 0 then some (.error (statusError status cmd address))
      else if len + 8 ≤ p.length then some (.ok ((p.drop 8).take len))
      else none
    else none
  else none

/-! ### Requests -/

variable {σ : Type} (env : SocketEnv σ)

/-- `socket_.send(packet)`. -/
def sendPacket (p : Bytes) : Program σ GvcpException Unit :=
  ofExcept fun s => ((env.send p s).1.mapError .socket, (env.send p s).2)

/-- The retry loop of `sendAndReceive`, with the number of attempts that are left.  Each
attempt waits for one datagram at most; `recvfrom` cuts it to the buffer of 600 bytes. -/
def attemptLoop (cmd expectedAckCmd : UInt16) (address : UInt32) (reqId : RequestId) (p : Bytes) :
    ℕ → Program σ GvcpException Bytes
  | 0 => throw (noResponse cmd address)
  | attempts + 1 => do
    sendPacket env p
    if ← ofState env.select then
      match ← ofState env.recvfrom with
      | none => attemptLoop cmd expectedAckCmd address reqId p attempts
      | some d =>
        match checkReply cmd expectedAckCmd address reqId (d.data.take 600) with
        -- a datagram that is not the reply uses up the attempt
        | none => attemptLoop cmd expectedAckCmd address reqId p attempts
        | some (.error e) => throw e
        | some (.ok body) => return body
    else attemptLoop cmd expectedAckCmd address reqId p attempts

/-- One attempt of the loop, with the calls it makes on the environment. -/
theorem exec_attemptLoop_succ (cmd ack : UInt16) (address : UInt32) (id : RequestId) (p : Bytes)
    (n : ℕ) (s : σ) :
    exec (attemptLoop env cmd ack address id p (n + 1)) s =
      match env.send p s with
      | (.error e, t) => (.error (.socket e), t)
      | (.ok _, t) =>
        match env.select t with
        | (false, t) => exec (attemptLoop env cmd ack address id p n) t
        | (true, t) =>
          match env.recvfrom t with
          | (none, t) => exec (attemptLoop env cmd ack address id p n) t
          | (some d, t) =>
            match checkReply cmd ack address id (d.data.take 600) with
            | none => exec (attemptLoop env cmd ack address id p n) t
            | some (.error e) => (.error e, t)
            | some (.ok body) => (.ok body, t) := by
  simp only [attemptLoop, sendPacket, exec_bind, exec_ofExcept, exec_ofState]
  rcases env.send p s with ⟨e | _, s₁⟩ <;> simp only [Except.mapError]
  rcases env.select s₁ with ⟨_ | _, s₂⟩ <;>
    simp only [Bool.false_eq_true, if_false, if_true, exec_bind, exec_ofState]
  rcases env.recvfrom s₂ with ⟨_ | d, s₃⟩ <;> simp only
  rcases checkReply cmd ack address id (d.data.take 600) with _ | e | body <;> rfl

/-- `GvcpIPConfig::sendAndReceive`. -/
def sendAndReceive (cmd expectedAckCmd : UInt16) (address : UInt32) (payload : Bytes) :
    Program σ GvcpException Bytes := do
  let reqId ← ofState env.getNext
  attemptLoop env cmd expectedAckCmd address reqId (packet cmd reqId payload) 3

/-- `GvcpIPConfig::readRegister`. -/
def readRegister (address : UInt32) : Program σ GvcpException UInt32 := do
  let response ← sendAndReceive env readregCmd readregAck address (appendUint32 [] address)
  if response.length < 4 then
    throw (.runtimeError "Invalid response to READREG command".toList)
  else return extractUint32 response

/-- `GvcpIPConfig::writeRegister`. -/
def writeRegister (address value : UInt32) : Program σ GvcpException Unit := do
  let _ ← sendAndReceive env writeregCmd writeregAck address
    (appendUint32 (appendUint32 [] address) value)

/-! ### Configurations -/

/-- `IPConfig`. -/
structure IPConfig where
  persistentIpEnabled : Bool
  dhcpEnabled : Bool
  persistentIp : UInt32
  persistentSubnet : UInt32
  persistentGateway : UInt32
  deriving DecidableEq, Repr

/-- `GvcpIPConfig::readConfig`. -/
def readConfig : Program σ GvcpException IPConfig := do
  let mode ← readRegister env gevCurrentIpConfiguration
  let persistentIp ← readRegister env gevPersistentIpAddress
  let persistentSubnet ← readRegister env gevPersistentSubnetMask
  let persistentGateway ← readRegister env gevPersistentDefaultGateway
  return {
    persistentIpEnabled := mode &&& ipconfigPersistentIpBit ≠ 0
    dhcpEnabled := mode &&& ipconfigDhcpBit ≠ 0
    persistentIp, persistentSubnet, persistentGateway }

/-- The new content of `GevCurrentIPConfiguration` in `writeConfig`. -/
def newMode (config : IPConfig) (mode : UInt32) : UInt32 :=
  let mode := mode &&& ~~~(ipconfigPersistentIpBit ||| ipconfigDhcpBit ||| ipconfigLlaBit)
  let mode := if config.persistentIpEnabled then mode ||| ipconfigPersistentIpBit else mode
  let mode := if config.dhcpEnabled then mode ||| ipconfigDhcpBit else mode
  mode ||| ipconfigLlaBit

/-- The body of the `try` block of `writeConfig`. -/
def writeSettings (config : IPConfig) : Program σ GvcpException Unit := do
  if config.persistentIpEnabled then
    writeRegister env gevPersistentIpAddress config.persistentIp
    writeRegister env gevPersistentSubnetMask config.persistentSubnet
    writeRegister env gevPersistentDefaultGateway config.persistentGateway
  let mode ← readRegister env gevCurrentIpConfiguration
  writeRegister env gevCurrentIpConfiguration (newMode config mode)

/-- `try { writeRegister(GEV_CCP, 0); } catch (...) { }`. -/
def releaseControl : Program σ GvcpException Unit :=
  tryCatch (writeRegister env gevCcp 0) fun _ => pure ()

/-- `GvcpIPConfig::writeConfig`. -/
def writeConfig (config : IPConfig) : Program σ GvcpException Unit := do
  -- claim control access, required to write bootstrap registers; outside of the `try` block
  writeRegister env gevCcp 1
  tryCatch (writeSettings env config) fun e => do
    releaseControl env
    throw e
  -- release control access again (best effort)
  releaseControl env

/-- The release sends its request and swallows what it throws. -/
theorem exec_releaseControl (s : σ) :
    exec (releaseControl env) s = (.ok (), (exec (writeRegister env gevCcp 0) s).2) := by
  rw [releaseControl, exec_tryCatch]
  rcases exec (writeRegister env gevCcp 0) s with ⟨e | _, t⟩ <;> rfl

/-- The three parts of `writeConfig` and where their exceptions go. -/
theorem exec_writeConfig (config : IPConfig) (s : σ) :
    exec (writeConfig env config) s =
      match exec (writeRegister env gevCcp 1) s with
      | (.error e, t) => (.error e, t)
      | (.ok _, t) =>
        match exec (writeSettings env config) t with
        | (res, t) => (res, (exec (releaseControl env) t).2) := by
  rw [writeConfig, exec_bind]
  rcases exec (writeRegister env gevCcp 1) s with ⟨e | _, s₁⟩
  · rfl
  simp only [exec_bind, exec_tryCatch]
  rcases exec (writeSettings env config) s₁ with ⟨e | _, s₂⟩ <;>
    simp only [exec_throw, exec_releaseControl]

end Gvcp
end RcDiscover
