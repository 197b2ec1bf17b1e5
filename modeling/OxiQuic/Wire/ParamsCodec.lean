import OxiQuic.Wire.Coding

/-!
# Transport parameters on the wire

Decoding of the peer's transport parameters (`oxiquic-transport/src/params_codec.rs`).
-/

namespace OxiQuic

/-- The error of a transport parameter that does not decode. -/
def paramError (reason : String) : OxiQuicError :=
  .transportError .transportParameterError none reason

/-- Run a decoder and name its failure. -/
def paramField {α : Type} (d : Decoder α) (buf : Bytes) (reason : String) :
    Except OxiQuicError (α × Bytes) :=
  match d buf with
  | .ok r => .ok r
  | .error _ => .error (paramError reason)

/-- An integer parameter, which fills its value. -/
def paramScalar (value : Bytes) : Except OxiQuicError Nat := do
  let (v, rest) ← paramField Buf.getVarint value "transport parameter value is not a varint"
  if rest.isEmpty then return v
  else .error (paramError "trailing bytes in transport parameter value")

/-- Record one parameter.  Unknown ones are ignored. -/
def applyParam (params : TransportParams) (id : Nat) (value : Bytes) :
    Except OxiQuicError TransportParams :=
  match id with
  | 0x01 => do return { params with maxIdleTimeoutMs := ← paramScalar value }
  | 0x03 => do return { params with maxUdpPayloadSize := ← paramScalar value }
  | 0x04 => do return { params with initialMaxData := ← paramScalar value }
  | 0x05 => do return { params with initialMaxStreamDataBidiLocal := ← paramScalar value }
  | 0x06 => do return { params with initialMaxStreamDataBidiRemote := ← paramScalar value }
  | 0x07 => do return { params with initialMaxStreamDataUni := ← paramScalar value }
  | 0x08 => do return { params with initialMaxStreamsBidi := ← paramScalar value }
  | 0x09 => do return { params with initialMaxStreamsUni := ← paramScalar value }
  | 0x0a => do return { params with ackDelayExponent := min (← paramScalar value) 255 }
  | 0x0b => do return { params with maxAckDelayMs := ← paramScalar value }
  | 0x0c =>
    if value.isEmpty then .ok { params with disableActiveMigration := true }
    else .error (paramError "disable_active_migration must be zero-length")
  | 0x0e => do return { params with activeConnectionIdLimit := ← paramScalar value }
  | 0x20 => do return { params with maxDatagramFrameSize := ← paramScalar value }
  | _ => .ok params

/-- The decoding loop.  Every iteration reads at least one byte, so the length of the
input bounds it. -/
def decodeParamsFuel : Nat → Bytes → TransportParams → Except OxiQuicError TransportParams
  | 0, _, params => .ok params
  | fuel + 1, buf, params =>
    if buf.isEmpty then .ok params
    else do
      let (id, buf) ← paramField Buf.getVarint buf "truncated transport parameter id"
      let (len, buf) ← paramField Buf.getVarint buf "truncated transport parameter length"
      let (value, buf) ←
        paramField (Buf.getBytes len) buf "transport parameter length overruns buffer"
      let params ← applyParam params id value
      decodeParamsFuel fuel buf params

/-- Decode the peer's transport parameters.  Absent ones keep their defaults. -/
def decodeTransportParams (bytes : Bytes) : Except OxiQuicError TransportParams :=
  decodeParamsFuel bytes.length bytes {}

end OxiQuic
