import OxiQuic.PlainPlatform
import OxiQuic.Wire.RoundTrip

/-!
# Packets without protection

A Version Negotiation packet and a Retry packet are read back as they were written.  The tag of a
Retry packet covers the rest of it, so that no byte can be changed alone.
-/

namespace OxiQuic

open Lib

/-- The answer to a client whose version is not supported; it echoes the client's CIDs. -/
def encodeVersionNegotiation (clientScid clientDcid : Bytes) (supportedVersions : List UInt32) :
    Bytes :=
  [0x80] ++ putU32 0 ++ [UInt8.ofNat clientScid.length] ++ clientScid
    ++ [UInt8.ofNat clientDcid.length] ++ clientDcid
    ++ supportedVersions.flatMap (putU32 ·.toNat)

theorem getU32_putU32 {value : Nat} (h : value < 2 ^ 32) :
    Reads Buf.getU32 (putU32 value) value := by
  intro rest
  show Except.ok (_, rest) = _
  simp only [byteAt_toNat]
  congr 2
  omega

theorem getVersions_reads (versions : List UInt32) :
    Reads (getVersions versions.length) (versions.flatMap (putU32 ·.toNat))
      (versions.map (·.toNat)) := by
  induction versions with
  | nil => exact .pure []
  | cons version versions ih =>
    refine (getU32_putU32 version.toNat_lt).bind ?_
    exact ih.map (version.toNat :: ·)

variable {P : Platform} {scid dcid odcid token body tag : Bytes}

theorem cidLen_toNat {cid : Bytes} (h : cid.length ≤ 255) :
    cid.length = (UInt8.ofNat cid.length).toNat :=
  (UInt8.toNat_ofNat_of_lt (Nat.lt_succ_of_le h)).symm

theorem decodeVersionNegotiation_encode (hscid : scid.length ≤ 255) (hdcid : dcid.length ≤ 255)
    (versions : List UInt32) :
    decodeVersionNegotiation (encodeVersionNegotiation scid dcid versions)
      = some (versions.map (·.toNat)) := by
  have hlist := getVersions_reads versions []
  have hlength : (versions.flatMap (putU32 ·.toNat)).length = 4 * versions.length := by
    simp [putU32, Nat.mul_comm]
  have hremaining (rest : Bytes) : Buf.remaining rest = .ok (rest.length, rest) := rfl
  simp only [decodeVersionNegotiation, encodeVersionNegotiation, List.append_assoc]
  rw [(getU8_reads 0x80).run_bind, (getU32_putU32 (Nat.two_pow_pos 32)).run_bind,
    if_neg (by decide), (getU8_reads _).run_bind,
    (getBytes_reads_of_length (cidLen_toNat hscid)).run_bind, (getU8_reads _).run_bind,
    (getBytes_reads_of_length (cidLen_toNat hdcid)).run_bind]
  simp only [bind, StateT.bind, Except.bind, hremaining, hlength, Nat.mul_mod_right, ne_eq,
    not_true, if_false, Nat.mul_div_cancel_left, Nat.succ_pos]
  rw [List.append_nil] at hlist
  rw [hlist]
  rfl

theorem parseRetryPacket_append (hscid : scid.length ≤ 255) (hdcid : dcid.length ≤ 255)
    (htag : tag.length = 16) :
    parseRetryPacket ([0xf1, 0, 0, 0, 1] ++ [UInt8.ofNat dcid.length] ++ dcid
      ++ [UInt8.ofNat scid.length] ++ scid ++ token ++ tag) = some (scid, dcid, token) := by
  have hstart : ([0xf1, 0, 0, 0, 1] : Bytes) = [0xf1] ++ putU32 1 := rfl
  simp only [parseRetryPacket, hstart, List.append_assoc]
  rw [if_neg (by simp only [List.length_append, putU32, List.length_cons]; omega),
    (getU8_reads 0xf1).run_bind, (getU32_putU32 (by decide)).run_bind, if_neg (by decide),
    (getU8_reads _).run_bind, (getBytes_reads_of_length (cidLen_toNat hdcid)).run_bind,
    (getU8_reads _).run_bind, (getBytes_reads_of_length (cidLen_toNat hscid)).run_bind]
  show (if (token ++ tag).length < 16 then none
    else some (scid, dcid, (token ++ tag).take ((token ++ tag).length - 16))) = _
  rw [List.length_append, htag, if_neg (by omega), Nat.add_sub_cancel, List.take_left]

/-- What the tag of a Retry packet covers. -/
def pseudoPacket (odcid body : Bytes) : Bytes := [UInt8.ofNat odcid.length] ++ odcid ++ body

theorem computeRetryIntegrityTag_eq_some :
    computeRetryIntegrityTag P odcid body = some tag ↔
      P.aes128GcmSeal retryKey retryNonce (pseudoPacket odcid body) [] = some tag ∧
        tag.length = 16 := by
  simp only [computeRetryIntegrityTag, pseudoPacket]
  split
  · rename_i hnone
    rw [hnone]
    exact ⟨nofun, nofun⟩
  rename_i sealed hsealed
  rw [hsealed]
  split
  · rename_i hlength
    exact ⟨nofun, fun h => absurd (Option.some.inj h.1 ▸ h.2) hlength⟩
  · rename_i hlength
    exact ⟨fun h => ⟨h, Option.some.inj h ▸ not_not.mp hlength⟩, And.left⟩

theorem verifyRetryIntegrityTag_append (htag : tag.length = 16) :
    verifyRetryIntegrityTag P odcid (body ++ tag) = true ↔
      computeRetryIntegrityTag P odcid body = some tag := by
  have hlength : (body ++ tag).length - 16 = body.length := by
    rw [List.length_append, htag, Nat.add_sub_cancel]
  rw [verifyRetryIntegrityTag, if_neg (by rw [List.length_append]; omega), hlength,
    List.take_left, List.drop_left]
  cases computeRetryIntegrityTag P odcid body with
  | none => simp
  | some computed => simp

/-- No other pseudo-packet has the tag of this one. -/
def TagInjectiveAt (P : Platform) (pseudo : Bytes) : Prop :=
  ∀ other, P.aes128GcmSeal retryKey retryNonce other []
    = P.aes128GcmSeal retryKey retryNonce pseudo [] → other = pseudo

theorem TagInjectiveAt.rejects (hinj : TagInjectiveAt P (pseudoPacket odcid body))
    (htag : computeRetryIntegrityTag P odcid body = some tag) {i : Nat} {b : UInt8}
    (hchanged : (body ++ tag).set i b ≠ body ++ tag) :
    verifyRetryIntegrityTag P odcid ((body ++ tag).set i b) = false := by
  obtain ⟨hsealed, hlength⟩ := computeRetryIntegrityTag_eq_some.mp htag
  refine Bool.eq_false_of_not_eq_true fun hverify => hchanged ?_
  rw [List.set_append] at hverify ⊢
  split at hverify
  · -- the tag is as it was, and the body is not
    have hbody := computeRetryIntegrityTag_eq_some.mp
      ((verifyRetryIntegrityTag_append hlength).mp hverify)
    have hsame := hinj _ (hbody.1.trans hsealed.symm)
    rw [if_pos ‹_›, List.append_cancel_left hsame]
  · have hsame := (verifyRetryIntegrityTag_append (by rw [List.length_set, hlength])).mp hverify
    rw [if_neg ‹_›, ← Option.some.inj (htag.symm.trans hsame)]

/-- With connection IDs of at most 255 bytes, both packets are read back, and a Retry packet with
one byte changed is rejected if its tag is that of no other pseudo-packet. -/
theorem unprotected_codecs (scid dcid odcid token : Bytes) (versions : List UInt32)
    (hscid : scid.length ≤ 255) (hdcid : dcid.length ≤ 255) :
    decodeVersionNegotiation (encodeVersionNegotiation scid dcid versions)
      = some (versions.map (·.toNat)) ∧
    ∀ packet, encodeRetryPacket P scid dcid odcid token = some packet →
      parseRetryPacket packet = some (scid, dcid, token) ∧
      verifyRetryIntegrityTag P odcid packet = true ∧
      (TagInjectiveAt P (pseudoPacket odcid (packet.take (packet.length - 16))) → ∀ i b,
        packet.set i b ≠ packet → verifyRetryIntegrityTag P odcid (packet.set i b) = false) := by
  refine ⟨decodeVersionNegotiation_encode hscid hdcid versions, fun packet hpacket => ?_⟩
  unfold encodeRetryPacket at hpacket
  simp only at hpacket
  split at hpacket
  · cases hpacket
  rename_i tag htag
  cases hpacket
  have hlength := (computeRetryIntegrityTag_eq_some.mp htag).2
  refine ⟨parseRetryPacket_append hscid hdcid hlength,
    (verifyRetryIntegrityTag_append hlength).mpr htag, fun hinj i b => ?_⟩
  refine TagInjectiveAt.rejects ?_ htag
  rwa [List.length_append, hlength, Nat.add_sub_cancel, List.take_left] at hinj

/-- A platform whose tag is injective at the shortest packet. -/
def Marked : Platform :=
  { Plain with
    aes128GcmSeal := fun _ _ aad _ =>
      some (List.replicate 16 (if aad = [0, 0xf1, 0, 0, 0, 1, 0, 0] then 1 else 0)) }

theorem unprotected_codecs_shortest :
    let packet := [0xf1, 0, 0, 0, 1, 0, 0] ++ List.replicate 16 1
    encodeRetryPacket Marked [] [] [] [] = some packet ∧
      verifyRetryIntegrityTag Marked [] (packet.set 0 0xf2) = false := by
  have hcodec := unprotected_codecs (P := Marked) [] [] [] [] [] (by decide) (by decide)
  refine ⟨rfl, (hcodec.2 _ rfl).2.2 (fun other h => ?_) 0 0xf2 (by decide)⟩
  by_contra hother
  have hne : ¬ other = [0, 0xf1, 0, 0, 0, 1, 0, 0] := hother
  simp [Marked, hne, pseudoPacket] at h

end OxiQuic
