import AirPlay2.Media.Base64

/- The two decoders of the key material together (`crypto.cpp`). A key is tried as base64
   and then as hexadecimal, an IV the other way round. Hexadecimal digits are characters of
   base64 as well, so a key in hexadecimal is always read as base64, and so wrongly
   (`decodeKey_hexText`), and an IV in base64 without padding is read as hexadecimal where
   all its characters happen to be digits. Everything else comes out as it was written
   (`extract_written_iff`). -/
namespace AirPlay2
open Lib

/-! ## Texts of a byte string -/

/-- The digit of a number below 16, with a small or a capital letter. -/
def hexChar (capital : Bool) (n : ℕ) : UInt8 :=
  if n < 10 then UInt8.ofNat (48 + n)
  else if capital then UInt8.ofNat (65 + (n - 10))
  else UInt8.ofNat (97 + (n - 10))

/-- A hexadecimal text of some bytes, each digit in either case. -/
inductive HexText : Bytes → Bytes → Prop where
  | nil : HexText [] []
  | cons (high low : Bool) (b : UInt8) {text bytes : Bytes} (h : HexText text bytes) :
      HexText (hexChar high (b.toNat / 16) :: hexChar low (b.toNat % 16) :: text) (b :: bytes)

/-- The hexadecimal text with letters of one case. -/
def hexText (capital : Bool) (bytes : Bytes) : Bytes :=
  bytes.flatMap (fun b => [hexChar capital (b.toNat / 16), hexChar capital (b.toNat % 16)])

theorem hexText_writes (capital : Bool) (bytes : Bytes) : HexText (hexText capital bytes) bytes := by
  induction bytes with
  | nil => exact .nil
  | cons b bytes ih => exact .cons capital capital b ih

/-- The encodings the extractor tries. -/
inductive KeyForm where
  | hexadecimal
  | padded
  | unpadded
  deriving DecidableEq

/-- The text writes the bytes in this form. -/
def KeyForm.Writes (form : KeyForm) (text bytes : Bytes) : Prop :=
  match form with
  | .hexadecimal => HexText text bytes
  | .padded => text = encodeBase64 bytes
  | .unpadded => text = base64Body bytes

/-! ## Hexadecimal -/

theorem hexValue_hexChar : ∀ capital, ∀ n < 16, hexValue (hexChar capital n) = some (UInt8.ofNat n) := by
  decide

theorem nibbles_or : ∀ b : UInt8,
    UInt8.ofNat (b.toNat / 16) <<< 4 ||| UInt8.ofNat (b.toNat % 16) = b := by
  intro b
  have hall : ∀ n : Fin 256, UInt8.ofNat (n / 16) <<< 4 ||| UInt8.ofNat (n % 16) = UInt8.ofNat n := by
    decide +kernel
  have hb := hall ⟨b.toNat, b.toNat_lt⟩
  rw [UInt8.ofNat_toNat] at hb
  exact hb

theorem decodeHexPairs_hexText {text bytes : Bytes} (h : HexText text bytes) :
    decodeHexPairs text = some bytes := by
  induction h with
  | nil => rfl
  | cons high low b h ih =>
    have hb := b.toNat_lt
    rw [decodeHexPairs, hexValue_hexChar high _ (by omega), hexValue_hexChar low _ (by omega), ih]
    show some (_ :: _) = _
    rw [nibbles_or]

theorem length_hexText {text bytes : Bytes} (h : HexText text bytes) :
    text.length = 2 * bytes.length := by
  induction h with
  | nil => rfl
  | cons high low b h ih =>
    rw [List.length_cons, List.length_cons, ih, List.length_cons]
    omega

theorem decodeHex_hexText {text bytes : Bytes} (h : HexText text bytes) (hne : bytes ≠ []) :
    decodeHex text = some bytes := by
  have hlength := length_hexText h
  have hpos : 0 < bytes.length := List.length_pos_iff.mpr hne
  have hnot : ¬ (text = [] ∨ text.length % 2 = 1) := by
    intro hor
    obtain hnil | hodd := hor
    · rw [hnil, List.length_nil] at hlength
      omega
    · omega
  rw [decodeHex, if_neg hnot, decodeHexPairs_hexText h]

/-- Pairs of digits decode to half as many bytes, and nothing else decodes. -/
theorem decodeHexPairs_cases (text : Bytes) (heven : text.length % 2 = 0) :
    (∃ bytes, decodeHexPairs text = some bytes ∧ 2 * bytes.length = text.length ∧
        text.all (fun c => (hexValue c).isSome) = true) ∨
      (decodeHexPairs text = none ∧ text.all (fun c => (hexValue c).isSome) = false) := by
  induction text using decodeHexPairs.induct with
  | case1 hi lo rest ih =>
    rw [List.length_cons, List.length_cons] at heven ⊢
    rw [decodeHexPairs, List.all_cons, List.all_cons]
    cases hexValue hi with
    | none => exact Or.inr ⟨rfl, rfl⟩
    | some high =>
      cases hexValue lo with
      | none => exact Or.inr ⟨rfl, rfl⟩
      | some low =>
        obtain ⟨bytes, hrest, hlength, hall⟩ | ⟨hrest, hall⟩ := ih (by omega)
        · left
          rw [hrest, hall]
          refine ⟨_, rfl, ?_, rfl⟩
          rw [List.length_cons]
          omega
        · right
          rw [hrest, hall]
          exact ⟨rfl, rfl⟩
  | case2 text h =>
    -- of even length and not a pair: empty
    cases text with
    | nil => exact Or.inl ⟨[], rfl, rfl, rfl⟩
    | cons c text =>
      cases text with
      | nil => simp at heven
      | cons d text => exact absurd rfl (h c d text)

/-! ## Hexadecimal digits as base64 -/

theorem hexChar_base64Char : ∀ capital, ∀ n < 16, ∃ d < 64, hexChar capital n = base64Char d := by
  decide +kernel

theorem hexText_digits {text bytes : Bytes} (h : HexText text bytes) :
    ∃ ds : List ℕ, text = ds.map base64Char ∧ (∀ d ∈ ds, d < 64) ∧ ds.length = 2 * bytes.length := by
  induction h with
  | nil => exact ⟨[], rfl, by simp, rfl⟩
  | cons high low b h ih =>
    have hb := b.toNat_lt
    obtain ⟨ds, rfl, hds, hlength⟩ := ih
    obtain ⟨d, hd, hhigh⟩ := hexChar_base64Char high (b.toNat / 16) (by omega)
    obtain ⟨e, he, hlow⟩ := hexChar_base64Char low (b.toNat % 16) (by omega)
    refine ⟨d :: e :: ds, by rw [hhigh, hlow]; rfl, ?_, ?_⟩
    · simp only [List.forall_mem_cons]
      exact ⟨hd, he, hds⟩
    · rw [List.length_cons, List.length_cons, hlength, List.length_cons]
      omega

/-- Two digits are never read as the byte they write. -/
theorem decodeBase64_byte (high low : Bool) (b : UInt8) :
    decodeBase64 [hexChar high (b.toNat / 16), hexChar low (b.toNat % 16)] ≠ some [b] := by
  have hall : ∀ high low : Bool, ∀ n : Fin 256,
      decodeBase64 [hexChar high (n / 16), hexChar low (n % 16)] ≠ some [UInt8.ofNat n] := by
    decide +kernel
  have hb := hall high low ⟨b.toNat, b.toNat_lt⟩
  rw [UInt8.ofNat_toNat] at hb
  exact hb

/-- A hexadecimal text is base64 as well, of other bytes: three for each two. -/
theorem decodeBase64_hexText {text bytes : Bytes} (h : HexText text bytes) (hne : bytes ≠ []) :
    ∃ out, decodeBase64 text = some out ∧ out ≠ bytes := by
  obtain ⟨ds, hds, hlt, hlength⟩ := hexText_digits h
  have hpos : 0 < bytes.length := List.length_pos_iff.mpr hne
  have hread := decodeBase64Loop_digits 0 (Or.inl rfl) hlt 0
  rw [List.replicate_zero, List.append_nil, ← hds] at hread
  have hout := length_regroup ((0 : UInt32).toNat % 2 ^ 0) (show 0 < 8 by decide) ds
  have hsome : decodeBase64 text = some (regroup ((0 : UInt32).toNat % 2 ^ 0) 0 ds) := by
    rw [decodeBase64, hread]
    apply if_neg
    intro hnil
    rw [hnil, List.length_nil] at hout
    omega
  refine ⟨_, hsome, ?_⟩
  intro heq
  rw [heq] at hout hsome
  -- Only for one byte the lengths agree.
  have hone : bytes.length = 1 := by omega
  obtain ⟨b, rfl⟩ := List.length_eq_one_iff.mp hone
  cases h with
  | cons high low b h =>
    cases h
    exact decodeBase64_byte high low b hsome

/-! ## The two decoders -/

theorem base64Body_ne_nil {bytes : Bytes} (h : bytes ≠ []) : base64Body bytes ≠ [] := by
  intro hnil
  have hlength := length_sextets bytes
  have hpos : 0 < bytes.length := List.length_pos_iff.mpr h
  rw [base64Body, List.map_eq_nil_iff] at hnil
  rw [hnil, List.length_nil] at hlength
  omega

theorem decodeBase64_written {form : KeyForm} {text bytes : Bytes} (hne : bytes ≠ [])
    (hform : form ≠ .hexadecimal) (h : form.Writes text bytes) : decodeBase64 text = some bytes := by
  cases form with
  | hexadecimal => exact absurd rfl hform
  | padded =>
    rw [show text = encodeBase64 bytes from h, encodeBase64, base64Padding]
    exact decodeBase64_body hne _
  | unpadded =>
    have hbody := decodeBase64_body hne 0
    rw [List.replicate_zero, List.append_nil] at hbody
    rw [show text = base64Body bytes from h]
    exact hbody

theorem text_ne_nil {form : KeyForm} {text bytes : Bytes} (hne : bytes ≠ [])
    (h : form.Writes text bytes) : text ≠ [] := by
  cases form with
  | hexadecimal =>
    intro hnil
    have hlength := length_hexText (show HexText text bytes from h)
    have hpos : 0 < bytes.length := List.length_pos_iff.mpr hne
    rw [hnil, List.length_nil] at hlength
    omega
  | padded =>
    rw [show text = encodeBase64 bytes from h, encodeBase64]
    simp [base64Body_ne_nil hne]
  | unpadded =>
    rw [show text = base64Body bytes from h]
    exact base64Body_ne_nil hne

/-- A key comes out as written unless it is in hexadecimal. -/
theorem decodeKey_written_iff {form : KeyForm} {text key : Bytes} (hne : key ≠ [])
    (h : form.Writes text key) : decodeKey text = some key ↔ form ≠ .hexadecimal := by
  rw [decodeKey, if_neg (text_ne_nil hne h)]
  refine ⟨?_, ?_⟩
  · intro hread hhex
    subst hhex
    obtain ⟨out, hout, hother⟩ := decodeBase64_hexText h hne
    rw [hout] at hread
    exact hother (Option.some.inj hread)
  · intro hform
    rw [decodeBase64_written hne hform h]
    rfl

/-- An IV comes out as written unless it is unpadded base64 made of hexadecimal digits. -/
theorem decodeIv_written_iff {form : KeyForm} {text iv : Bytes} (hiv : iv.length = 16)
    (h : form.Writes text iv) :
    decodeIv text = some iv ↔
      ¬ (form = .unpadded ∧ text.all (fun c => (hexValue c).isSome) = true) := by
  have hne : iv ≠ [] := List.ne_nil_of_length_pos (by omega)
  have hbody : (base64Body iv).length = 22 := by
    rw [base64Body, List.length_map, length_sextets, hiv]
  rw [decodeIv, if_neg (text_ne_nil hne h)]
  cases form with
  | hexadecimal =>
    rw [decodeHex_hexText h hne]
    simp
  | padded =>
    have htext : text = base64Body iv ++ [61, 61] := by
      rw [show text = encodeBase64 iv from h, encodeBase64, base64Padding, hiv]
      rfl
    have hlength : text.length = 24 := by rw [htext, List.length_append, hbody]; rfl
    have hhex : decodeHex text = none := by
      rw [decodeHex]
      split
      · rfl
      · obtain ⟨bytes, -, -, hall⟩ | ⟨hnone, -⟩ := decodeHexPairs_cases text (by omega)
        · rw [htext, List.all_append] at hall
          simp [hexValue] at hall
        · exact hnone
    rw [hhex, Option.none_or, decodeBase64_written hne (by simp) h]
    simp
  | unpadded =>
    have hlength : text.length = 22 := by rw [show text = base64Body iv from h, hbody]
    have hnot : ¬ (text = [] ∨ text.length % 2 = 1) := by
      intro hor
      obtain hnil | hodd := hor
      · exact text_ne_nil hne h hnil
      · omega
    rw [decodeHex, if_neg hnot]
    obtain ⟨bytes, hsome, hhalf, hall⟩ | ⟨hnone, hall⟩ := decodeHexPairs_cases text (by omega)
    · -- eleven bytes instead of sixteen
      refine iff_of_false ?_ (by simp [hall])
      intro hread
      rw [hsome, Option.some_or] at hread
      rw [Option.some.inj hread, hiv] at hhalf
      omega
    · rw [hnone, Option.none_or, decodeBase64_written hne (by simp) h]
      simp [hall]

theorem extract_eq_some_iff (sdp : AirPlaySdp) (p : CryptoParameters) :
    extractCryptoParameters sdp = some p ↔
      decodeKey sdp.rsaaeskey = some p.encryptedKey ∧ decodeIv sdp.aesiv = some p.iv ∧
        p.fingerprint = sdp.fingerprint ∧ p.valid = true := by
  unfold extractCryptoParameters
  cases decodeKey sdp.rsaaeskey with
  | none => simp
  | some key =>
    cases decodeIv sdp.aesiv with
    | none => simp
    | some iv =>
      simp only [Option.ite_none_right_eq_some, Option.some.injEq]
      refine ⟨?_, ?_⟩
      · intro h
        obtain ⟨hvalid, rfl⟩ := h
        exact ⟨rfl, rfl, rfl, hvalid⟩
      · intro h
        obtain ⟨rfl, rfl, hfingerprint, hvalid⟩ := h
        rw [← hfingerprint]
        exact ⟨hvalid, rfl⟩

/-- **When a key and an IV are read as written.** Exactly where the key is not in
    hexadecimal, and the IV is not in unpadded base64 that looks like hexadecimal. -/
theorem extract_written_iff (sdp : AirPlaySdp) {key iv : Bytes} (hkey : key ≠ []) (hiv : iv.length = 16)
    {keyForm ivForm : KeyForm} (hkeyText : keyForm.Writes sdp.rsaaeskey key)
    (hivText : ivForm.Writes sdp.aesiv iv) :
    extractCryptoParameters sdp =
        some { encryptedKey := key, iv := iv, fingerprint := sdp.fingerprint } ↔
      keyForm ≠ .hexadecimal ∧
        ¬ (ivForm = .unpadded ∧ sdp.aesiv.all (fun c => (hexValue c).isSome) = true) := by
  have hvalid : ({ encryptedKey := key, iv := iv, fingerprint := sdp.fingerprint } :
      CryptoParameters).valid = true := by
    simp [CryptoParameters.valid, hkey, hiv]
  rw [extract_eq_some_iff, decodeKey_written_iff hkey hkeyText, decodeIv_written_iff hiv hivText]
  simp only [hvalid, and_true]

/-- The bytes 0 to 15. -/
def countingIv : Bytes := (List.range 16).map UInt8.ofNat

/-- A key in padded base64 and an IV in hexadecimal are read. -/
theorem extract_written_padded :
    extractCryptoParameters
        { rsaaeskey := encodeBase64 [0xab, 0xcd], aesiv := hexText false countingIv } =
      some { encryptedKey := [0xab, 0xcd], iv := countingIv } :=
  (extract_written_iff { rsaaeskey := encodeBase64 [0xab, 0xcd], aesiv := hexText false countingIv }
    (by decide) (by decide) (show KeyForm.padded.Writes _ _ from rfl)
    (show KeyForm.hexadecimal.Writes _ _ from hexText_writes false countingIv)).mpr (by decide)

/-- The key `ABCD` in hexadecimal is read as the three bytes of the base64 text `ABCD`. -/
theorem hexKey_misread :
    KeyForm.hexadecimal.Writes (ascii "ABCD") [0xab, 0xcd] ∧
      KeyForm.hexadecimal.Writes (hexText false countingIv) countingIv ∧
      extractCryptoParameters { rsaaeskey := ascii "ABCD", aesiv := hexText false countingIv } ≠
        some { encryptedKey := [0xab, 0xcd], iv := countingIv } := by
  refine ⟨?_, hexText_writes false countingIv, ?_⟩
  · have htext : ascii "ABCD" = hexText true [0xab, 0xcd] := by decide
    rw [htext]
    exact hexText_writes true [0xab, 0xcd]
  · decide +kernel

end AirPlay2
