import AirPlay2.Lib.Dns
import AirPlay2.Mdns.Network

/- What a DNS reader makes of the responder's message (`MdnsService::Impl::make_response`).
   Where the instance name is one label of its own, the message is the encoding of the four
   records announced, and is read back as these (`decodeMessage_makeResponse`). `name` splits
   the instance name at its dots, writes a zero for an empty part and stops at a long one,
   and the TXT length is cut to 16 bits; `publish_announces_iff` says for which names and
   records the message survives that. -/
namespace AirPlay2
open Lib

/-! ## What is announced -/

/-- The TXT items that are kept. -/
def keptItems (records : List MdnsTxtRecord) : List Bytes :=
  (records.map fun r => r.key ++ ascii "=" ++ r.value).filter fun item => item.length ≤ 255

def serviceLabels : List Bytes := [ascii "_airplay", ascii "_tcp", ascii "local"]

def targetLabels : List Bytes := [ascii "gwl-airplay", ascii "local"]

/-- A record of the message: class IN with the cache-flush bit, and its lifetime. -/
def announced (owner : List Bytes) (type : ℕ) (data : Dns.RData) : Dns.Record :=
  { owner := owner, type := type, cls := 0x8001, ttl := 4500, data := data }

/-- The four answers, with the instance under one label. -/
def MdnsService.announcement (s : MdnsService) (label : Bytes) : List Dns.Record :=
  [announced serviceLabels 12 (.ptr (label :: serviceLabels)),
    announced (label :: serviceLabels) 33 (.srv 0 0 s.port.toNat targetLabels),
    announced (label :: serviceLabels) 16 (.txt (keptItems s.records)),
    announced targetLabels 1 (.a s.localAddress.toNat)]

theorem length_serviceLabels : (Dns.encodeName serviceLabels).length = 21 := by
  decide

theorem length_targetLabels : (Dns.encodeName targetLabels).length = 19 := by
  decide

theorem isLabel_serviceLabels : ∀ label ∈ serviceLabels, Dns.IsLabel label := by
  decide

theorem isLabel_targetLabels : ∀ label ∈ targetLabels, Dns.IsLabel label := by
  decide

theorem isLabel_cons {label : Bytes} (hlabel : Dns.IsLabel label) :
    ∀ k ∈ label :: serviceLabels, Dns.IsLabel k := by
  intro k hk
  obtain rfl | hk := List.mem_cons.mp hk
  · exact hlabel
  · exact isLabel_serviceLabels k hk

theorem announced_fits {owner : List Bytes} {type : ℕ} {data : Dns.RData}
    (howner : ∀ label ∈ owner, Dns.IsLabel label) (htype : type < 65536) (hdata : data.Fits type)
    (hlength : (Dns.encodeData data).length < 65536) : (announced owner type data).Fits where
  owner := howner
  type := htype
  cls := (by decide : 0x8001 < 65536)
  ttl := (by decide : 4500 < 256 ^ 4)
  data := hdata
  length := hlength

/-- The announcement fits its fields, if the TXT data does. -/
theorem announcement_fits {s : MdnsService} {label : Bytes} (hlabel : Dns.IsLabel label)
    (htxt : (Dns.encodeStrings (keptItems s.records)).length ≤ 65535) :
    ∀ r ∈ s.announcement label, r.Fits := by
  have hinstance := isLabel_cons hlabel
  have hname : (Dns.encodeName (label :: serviceLabels)).length < 1000 := by
    have hle := hlabel.2
    simp only [Dns.encodeName_cons, List.length_cons, List.length_append, length_serviceLabels]
    omega
  have hshort : ∀ item ∈ keptItems s.records, item.length ≤ 255 := by
    intro item hitem
    exact of_decide_eq_true (List.mem_filter.mp hitem).2
  have hport := s.port.toNat_lt
  have haddress := s.localAddress.toNat_lt
  intro r hr
  simp only [MdnsService.announcement, List.mem_cons, List.not_mem_nil, or_false] at hr
  obtain rfl | rfl | rfl | rfl := hr
  · refine announced_fits isLabel_serviceLabels (by decide) ⟨rfl, hinstance⟩ ?_
    simp only [Dns.encodeData]
    omega
  · apply announced_fits hinstance (by decide)
    · exact ⟨rfl, by decide, by decide, by omega, isLabel_targetLabels⟩
    · simp only [Dns.encodeData, List.length_append, length_toBytes, length_targetLabels]
      decide
  · refine announced_fits hinstance (by decide) ⟨rfl, hshort⟩ ?_
    simp only [Dns.encodeData]
    omega
  · refine announced_fits isLabel_targetLabels (by decide) ⟨rfl, by omega⟩ ?_
    simp only [Dns.encodeData, length_toBytes]
    decide

/-! ## The message as an encoding -/

theorem flatMap_txtItem (records : List MdnsTxtRecord) :
    records.flatMap Mdns.txtItem = Dns.encodeStrings (keptItems records) := by
  induction records with
  | nil => rfl
  | cons r records ih =>
    simp only [Dns.encodeStrings, keptItems] at ih ⊢
    rw [List.flatMap_cons, List.map_cons, ih, Mdns.txtItem, List.filter_cons]
    by_cases hle : (r.key ++ ascii "=" ++ r.value).length ≤ 255
    · rw [if_pos (decide_eq_true hle), List.flatMap_cons]
      simp only [if_pos hle]
    · rw [if_neg (mt of_decide_eq_true hle)]
      simp only [if_neg hle, List.nil_append]

/-- The length of record data as it is written: its low 16 bits. -/
theorem recordData_eq (data : Bytes) : Mdns.recordData data = toBytes 2 data.length ++ data := by
  have hlow := toBytes_mul_add 2 (data.length / 65536) (data.length % 65536)
  have hsplit : data.length / 65536 * 256 ^ 2 + data.length % 65536 = data.length := by omega
  rw [hsplit] at hlow
  rw [Mdns.recordData, Mdns.u16, UInt16.toNat_ofNat', hlow]

theorem name_service : Mdns.name (ascii "_airplay._tcp.local") = Dns.encodeName serviceLabels := by
  decide +kernel

theorem name_target : Mdns.name (ascii "gwl-airplay.local") = Dns.encodeName targetLabels := by
  decide +kernel

/-- The name of the service, as `make_response` writes it. -/
def MdnsService.serviceName (s : MdnsService) : Bytes :=
  Mdns.name (s.instanceName ++ ascii "._airplay._tcp.local")

/-- The message in the pieces of a DNS message, whatever the name of the service. -/
theorem makeResponse_eq {s : MdnsService} (htarget : s.target = ascii "gwl-airplay.local") :
    s.makeResponse = Dns.encodeHeader 0 0x8400 0 4 0 0 ++
      (Dns.recordHead serviceLabels 12 0x8001 4500 s.serviceName.length ++ s.serviceName) ++
      (s.serviceName ++ toBytes 2 33 ++ toBytes 2 0x8001 ++ toBytes 4 4500 ++ toBytes 2 25 ++
        (toBytes 2 0 ++ toBytes 2 0 ++ toBytes 2 s.port.toNat ++ Dns.encodeName targetLabels) ++
        (s.serviceName ++ toBytes 2 16 ++ toBytes 2 0x8001 ++ toBytes 4 4500 ++
          toBytes 2 (Dns.encodeStrings (keptItems s.records)).length ++
          Dns.encodeStrings (keptItems s.records)) ++
        Dns.encodeRecord (announced targetLabels 1 (.a s.localAddress.toNat))) := by
  unfold MdnsService.makeResponse MdnsService.serviceName
  rw [htarget]
  simp only [name_service, name_target, recordData_eq, flatMap_txtItem, Mdns.recordHead, Mdns.u16,
    Mdns.u32, Dns.encodeRecord, Dns.recordHead, Dns.encodeData, announced, List.length_append,
    length_toBytes, length_targetLabels, List.append_assoc]
  rfl

/-- The message is the encoding of the announcement where the name is that of a label. -/
theorem makeResponse_eq_encode {s : MdnsService} {label : Bytes}
    (htarget : s.target = ascii "gwl-airplay.local")
    (hname : s.serviceName = Dns.encodeName (label :: serviceLabels)) :
    s.makeResponse = Dns.encodeHeader 0 0x8400 0 (s.announcement label).length 0 0 ++
      (s.announcement label).flatMap Dns.encodeRecord := by
  rw [makeResponse_eq htarget, hname]
  simp only [MdnsService.announcement, List.flatMap_cons, List.flatMap_nil, List.append_nil,
    List.length_cons, List.length_nil, Dns.encodeRecord, Dns.recordHead, Dns.encodeData, announced,
    List.length_append, length_toBytes, length_targetLabels, List.append_assoc]

/-! ## Names -/

theorem nameLabels_append {labels : List Bytes} (h : ∀ label ∈ labels, label.length ≤ 63)
    (rest : List Bytes) :
    Mdns.nameLabels (labels ++ rest) =
      labels.flatMap (fun label => UInt8.ofNat label.length :: label) ++ Mdns.nameLabels rest := by
  induction labels with
  | nil => rfl
  | cons label labels ih =>
    have hle := h label List.mem_cons_self
    have hrest := ih fun k hk => h k (List.mem_cons_of_mem label hk)
    rw [List.cons_append, Mdns.nameLabels, if_neg (not_lt.mpr hle), hrest, List.flatMap_cons,
      List.cons_append, List.cons_append, List.append_assoc]

/-- Labels that fit are written as a DNS name. -/
theorem nameLabels_eq {labels : List Bytes} (h : ∀ label ∈ labels, label.length ≤ 63) :
    Mdns.nameLabels labels = Dns.encodeName labels := by
  have happend := nameLabels_append h []
  rw [List.append_nil] at happend
  exact happend

/-- So are those before an empty label and a long one. -/
theorem nameLabels_cut {labels : List Bytes} {long : Bytes} (h : ∀ label ∈ labels, label.length ≤ 63)
    (hlong : 63 < long.length) (rest : List Bytes) :
    Mdns.nameLabels (labels ++ [] :: long :: rest) = Dns.encodeName labels := by
  have hcut : Mdns.nameLabels ([] :: long :: rest) = [0] := by
    simp [Mdns.nameLabels, hlong]
  rw [nameLabels_append h, hcut, Dns.encodeName]

/-- A name that ends where its bytes end has all the labels, or those before an empty label
    and a long one. -/
theorem labels_of_decodeName {msg : Bytes} {labels read : List Bytes} {fuel pos : ℕ}
    (h : At msg pos (Mdns.nameLabels labels))
    (hread : Dns.decodeName msg fuel pos = some (read, pos + (Mdns.nameLabels labels).length)) :
    labels = read ∨ ∃ long rest, labels = read ++ [] :: long :: rest ∧ 63 < long.length := by
  induction labels generalizing read fuel pos with
  | nil =>
    cases fuel with
    | zero => cases hread
    | succ fuel =>
      rw [Dns.decodeName_end h] at hread
      exact Or.inl (Prod.mk.inj (Option.some.inj hread)).1
  | cons label labels ih =>
    by_cases hlong : 63 < label.length
    · -- nothing is written, and a name takes a byte
      obtain ⟨-, hlt, -⟩ := Dns.decodeName_bound hread
      rw [Mdns.nameLabels, if_pos hlong] at hlt
      exact absurd hlt (lt_irrefl _)
    · rw [Mdns.nameLabels, if_neg hlong] at h hread
      cases fuel with
      | zero => cases hread
      | succ fuel =>
        by_cases hnil : label = []
        · -- the zero of an empty label ends the name, so nothing is behind it
          subst hnil
          have hzero : At msg pos ([0] ++ Mdns.nameLabels labels) := h
          rw [Dns.decodeName_end hzero.left] at hread
          obtain ⟨rfl, hend⟩ := Prod.mk.inj (Option.some.inj hread)
          rw [List.nil_append, List.length_cons] at hend
          have hempty : Mdns.nameLabels labels = [] := List.eq_nil_of_length_eq_zero (by omega)
          cases labels with
          | nil => cases hempty
          | cons long rest =>
            rw [Mdns.nameLabels] at hempty
            split at hempty
            · rename_i hlt
              exact Or.inr ⟨long, rest, rfl, hlt⟩
            · cases hempty
        · rw [Dns.decodeName_label ⟨hnil, not_lt.mp hlong⟩ h] at hread
          obtain ⟨next, hnext, heq⟩ := Option.map_eq_some_iff.mp hread
          obtain ⟨rfl, hend⟩ := Prod.mk.inj heq
          have hrest : next = (next.1, pos + 1 + label.length + (Mdns.nameLabels labels).length) := by
            rw [List.length_cons, List.length_append] at hend
            exact Prod.ext rfl (by omega)
          rw [hrest] at hnext
          obtain hall | ⟨long, rest, hcut, hlt⟩ := ih h.tail.right hnext
          · exact Or.inl (by rw [hall])
          · exact Or.inr ⟨long, rest, by rw [hcut, List.cons_append], hlt⟩

/-! ## Names that can be announced -/

/-- The name of the service comes out as that of a label: it is the instance name, or the
    instance name spells the whole name behind it, then a dot too many, then 64 bytes
    without one. -/
def UnderLabel (instanceName label : Bytes) : Prop :=
  Dns.IsLabel label ∧ 46 ∉ label ∧ (instanceName = label ∨
    ∃ long rest : Bytes, long.length = 64 ∧ 46 ∉ long ∧
      instanceName = label ++ ascii "._airplay._tcp.local.." ++ long ++ rest)

theorem UnderLabel.begins {instanceName label : Bytes} (h : UnderLabel instanceName label) :
    label <+: instanceName := by
  obtain ⟨-, -, rfl | ⟨long, rest, -, -, rfl⟩⟩ := h
  · exact List.prefix_refl _
  · exact ⟨ascii "._airplay._tcp.local.." ++ long ++ rest, by simp only [List.append_assoc]⟩

/-- What `make_response` puts behind the instance name, at its dots. -/
theorem service_parts : ascii "._airplay._tcp.local" =
    46 :: (ascii "_airplay" ++ 46 :: (ascii "_tcp" ++ 46 :: ascii "local")) := by
  decide +kernel

theorem service_dots :
    ascii "._airplay._tcp.local.." = ascii "._airplay._tcp.local" ++ [46, 46] := by
  decide +kernel

theorem getlines_service {label : Bytes} (h : 46 ∉ label) (rest : Bytes) :
    getlines 46 (label ++ ascii "._airplay._tcp.local" ++ 46 :: rest) =
      label :: serviceLabels ++ getlines 46 rest := by
  have hsplit : label ++ ascii "._airplay._tcp.local" ++ 46 :: rest =
      label ++ 46 :: (ascii "_airplay" ++ 46 :: (ascii "_tcp" ++ 46 ::
        (ascii "local" ++ 46 :: rest))) := by
    simp only [service_parts, List.append_assoc, List.cons_append]
  rw [hsplit, getlines_append h, getlines_append (by decide), getlines_append (by decide),
    getlines_append (by decide)]
  rfl

/-- The name of the service is that of the label. -/
theorem UnderLabel.serviceName {s : MdnsService} {label : Bytes}
    (h : UnderLabel s.instanceName label) :
    s.serviceName = Dns.encodeName (label :: serviceLabels) := by
  obtain ⟨hlabel, hdot, hcases⟩ := h
  have hshort : ∀ k ∈ label :: serviceLabels, k.length ≤ 63 := fun k hk => (isLabel_cons hlabel k hk).2
  unfold MdnsService.serviceName Mdns.name
  obtain heq | ⟨long, rest, hlength, hlong, heq⟩ := hcases
  · have hlines : getlines 46 (label ++ 46 :: ascii "_airplay._tcp.local") =
        label :: serviceLabels := by
      rw [getlines_append hdot]
      rfl
    rw [heq]
    exact (congrArg Mdns.nameLabels hlines).trans (nameLabels_eq hshort)
  · -- the part that begins with the 64 bytes is too long
    have hne : long ≠ [] := by
      intro hnil
      rw [hnil] at hlength
      cases hlength
    have hmore := getlines_front hlong hne (rest ++ ascii "._airplay._tcp.local")
    have hsplit : label ++ ascii "._airplay._tcp.local.." ++ long ++ rest ++
          ascii "._airplay._tcp.local" =
        label ++ ascii "._airplay._tcp.local" ++ 46 ::
          (46 :: (long ++ (rest ++ ascii "._airplay._tcp.local"))) := by
      simp only [service_dots, List.append_assoc, List.cons_append, List.nil_append]
    have hempty : getlines 46 (46 :: (long ++ (rest ++ ascii "._airplay._tcp.local"))) =
        [] :: (long ++ (getlines 46 (rest ++ ascii "._airplay._tcp.local")).headD []) ::
          (getlines 46 (rest ++ ascii "._airplay._tcp.local")).tail := by
      rw [getlines, if_pos rfl, hmore]
    rw [heq, hsplit, getlines_service hdot, hempty]
    apply nameLabels_cut hshort
    rw [List.length_append]
    omega

/-- The 64 bytes lie within the instance name: the dot behind it is not among them. -/
theorem cut_within_instance {instanceName before long tail : Bytes} (hdot : 46 ∉ long)
    (hlong : 63 < long.length)
    (h : instanceName ++ ascii "._airplay._tcp.local" = before ++ (long ++ tail)) :
    ∃ cut rest : Bytes, cut.length = 64 ∧ 46 ∉ cut ∧ instanceName = before ++ cut ++ rest := by
  have hsuffix : (ascii "._airplay._tcp.local").length = 20 := by decide
  have htotal := congrArg List.length h
  simp only [List.length_append, hsuffix] at htotal
  have hwithin : before.length + 64 ≤ instanceName.length := by
    by_contra hshort
    -- the byte behind the instance name is a dot, and one of `long`
    have hbyte := congrArg (fun bs : Bytes => bs[instanceName.length]?) h
    simp only [List.getElem?_append_right (le_refl instanceName.length), Nat.sub_self,
      List.getElem?_append_right (show before.length ≤ instanceName.length by omega),
      List.getElem?_append_left
        (show instanceName.length - before.length < long.length by omega)] at hbyte
    exact hdot (List.mem_of_getElem? hbyte.symm)
  have hcut : before ++ long.take 64 <+: instanceName ++ ascii "._airplay._tcp.local" := by
    refine ⟨long.drop 64 ++ tail, ?_⟩
    rw [h, List.append_assoc, ← List.append_assoc (long.take 64), List.take_append_drop]
  have hle : (before ++ long.take 64).length ≤ instanceName.length := by
    rw [List.length_append, List.length_take]
    omega
  obtain ⟨rest, hrest⟩ := List.prefix_of_prefix_length_le hcut (List.prefix_append _ _) hle
  refine ⟨long.take 64, rest, ?_, ?_, hrest.symm⟩
  · rw [List.length_take]
    omega
  · intro hmem
    exact hdot (List.mem_of_mem_take hmem)

theorem of_getlines_service {s label : Bytes} {lines : List Bytes}
    (h : getlines 46 s = label :: serviceLabels ++ lines) :
    46 ∉ label ∧ ((∃ rest, s = label ++ ascii "._airplay._tcp.local" ++ 46 :: rest ∧
      getlines 46 rest = lines) ∨ (s = label ++ ascii "._airplay._tcp.local" ∧ lines = [])) := by
  obtain ⟨hdot, ⟨rest₁, hrest₁, h₁⟩ | ⟨-, hno⟩⟩ := getlines_eq_cons h
  · obtain ⟨-, ⟨rest₂, hrest₂, h₂⟩ | ⟨-, hno⟩⟩ := getlines_eq_cons h₁
    · obtain ⟨-, ⟨rest₃, hrest₃, h₃⟩ | ⟨-, hno⟩⟩ := getlines_eq_cons h₂
      · refine ⟨hdot, ?_⟩
        obtain ⟨-, ⟨rest, hrest, hlines⟩ | ⟨hlast, hlines⟩⟩ := getlines_eq_cons h₃
        · refine Or.inl ⟨rest, ?_, hlines⟩
          simp only [hrest₁, hrest₂, hrest₃, hrest, service_parts, List.append_assoc,
            List.cons_append]
        · refine Or.inr ⟨?_, hlines⟩
          rw [hrest₁, hrest₂, hrest₃, hlast, service_parts]
      · cases hno
    · cases hno
  · cases hno

/-- Nothing else comes out as the name of a label. -/
theorem underLabel_of_getlines {instanceName label : Bytes} (hlabel : Dns.IsLabel label)
    (h : getlines 46 (instanceName ++ ascii "._airplay._tcp.local") = label :: serviceLabels ∨
      ∃ long rest, getlines 46 (instanceName ++ ascii "._airplay._tcp.local") =
        label :: serviceLabels ++ [] :: long :: rest ∧ 63 < long.length) :
    UnderLabel instanceName label := by
  obtain hall | ⟨long, rest, hcut, hlong⟩ := h
  · rw [← List.append_nil (label :: serviceLabels)] at hall
    obtain ⟨hdot, ⟨rest, heq, hrest⟩ | ⟨heq, -⟩⟩ := of_getlines_service hall
    · -- the string ends in a letter, not in a dot
      rw [getlines_eq_nil hrest] at heq
      have hlast := congrArg List.getLast? heq
      rw [List.getLast?_append_of_ne_nil _ (by decide),
        List.getLast?_append_of_ne_nil _ (by decide)] at hlast
      exact absurd hlast (by decide)
    · exact ⟨hlabel, hdot, Or.inl (List.append_cancel_right heq)⟩
  · obtain ⟨hdot, ⟨after, heq, hafter⟩ | ⟨-, hno⟩⟩ := of_getlines_service hcut
    · obtain ⟨-, ⟨after', rfl, hafter'⟩ | ⟨-, hno⟩⟩ := getlines_eq_cons hafter
      · obtain ⟨hlongDot, hstands⟩ := getlines_eq_cons hafter'
        obtain ⟨tail, htail⟩ : ∃ tail, after' = long ++ tail := by
          obtain ⟨more, hmore, -⟩ | ⟨hlast, -⟩ := hstands
          · exact ⟨46 :: more, hmore⟩
          · exact ⟨[], by rw [hlast, List.append_nil]⟩
        have hstring : instanceName ++ ascii "._airplay._tcp.local" =
            (label ++ ascii "._airplay._tcp.local..") ++ (long ++ tail) := by
          simp only [heq, htail, service_dots, List.append_assoc, List.cons_append, List.nil_append]
        refine ⟨hlabel, hdot, Or.inr ?_⟩
        exact cut_within_instance hlongDot hlong hstring
      · cases hno
    · cases hno

/-! ## The message read back -/

theorem decodeMessage_underLabel {s : MdnsService} {label : Bytes}
    (htarget : s.target = ascii "gwl-airplay.local") (hlabel : UnderLabel s.instanceName label)
    (htxt : (Dns.encodeStrings (keptItems s.records)).length ≤ 65535) :
    Dns.decodeMessage s.makeResponse =
      some { id := 0, flags := 0x8400, questions := [], answers := s.announcement label
             authority := [], additional := [] } := by
  rw [makeResponse_eq_encode htarget hlabel.serviceName]
  exact Dns.decodeMessage_encode (by decide) (by decide) (show 4 < 65536 by decide)
    (announcement_fits hlabel.1 htxt)

/-- **The answer carries what was published.** A DNS reader gets the four records, and
    nothing else. -/
theorem decodeMessage_makeResponse (instanceName : Bytes) (port : UInt16)
    (records : List MdnsTxtRecord) (address : UInt32)
    (hlength : 1 ≤ instanceName.length ∧ instanceName.length ≤ 63) (hdot : 46 ∉ instanceName)
    (htxt : (Dns.encodeStrings (keptItems records)).length ≤ 65535) :
    Dns.decodeMessage (MdnsService.makeResponse
        { active := true, instanceName := instanceName, port := port, records := records
          localAddress := address }) =
      some
        { id := 0, flags := 0x8400, questions := [], authority := [], additional := []
          answers :=
            [announced serviceLabels 12 (.ptr (instanceName :: serviceLabels)),
              announced (instanceName :: serviceLabels) 33 (.srv 0 0 port.toNat targetLabels),
              announced (instanceName :: serviceLabels) 16 (.txt (keptItems records)),
              announced targetLabels 1 (.a address.toNat)] } := by
  have hlabel : Dns.IsLabel instanceName := ⟨List.length_pos_iff.mp hlength.1, hlength.2⟩
  exact decodeMessage_underLabel rfl ⟨hlabel, hdot, Or.inl rfl⟩ htxt

theorem decodeMessage_makeResponse_kitchen :
    Dns.decodeMessage (MdnsService.makeResponse
        { active := true, instanceName := ascii "kitchen", port := 7000
          records := [{ key := ascii "model", value := ascii "gwl" }]
          localAddress := 0xC0A80102 }) =
      some
        { id := 0, flags := 0x8400, questions := [], authority := [], additional := []
          answers :=
            [announced serviceLabels 12 (.ptr (ascii "kitchen" :: serviceLabels)),
              announced (ascii "kitchen" :: serviceLabels) 33 (.srv 0 0 7000 targetLabels),
              announced (ascii "kitchen" :: serviceLabels) 16 (.txt [ascii "model=gwl"]),
              announced targetLabels 1 (.a 0xC0A80102)] } :=
  decodeMessage_makeResponse (ascii "kitchen") 7000
    [{ key := ascii "model", value := ascii "gwl" }] 0xC0A80102 (by decide) (by decide) (by decide)

/-! ## Which names survive -/

/-- The message is well formed and announces the four records under a label that begins the
    instance name. -/
def MdnsService.Announces (s : MdnsService) : Prop :=
  ∃ label m, label <+: s.instanceName ∧ Dns.decodeMessage s.makeResponse = some m ∧
    m.answers = s.announcement label

theorem length_makeResponse {s : MdnsService} (htarget : s.target = ascii "gwl-airplay.local") :
    s.makeResponse.length =
      3 * s.serviceName.length + (Dns.encodeStrings (keptItems s.records)).length + 121 := by
  have hhead : (Dns.encodeHeader 0 0x8400 0 4 0 0).length = 12 := rfl
  rw [makeResponse_eq htarget]
  simp only [List.length_append, hhead, Dns.length_recordHead, length_toBytes,
    length_serviceLabels, length_targetLabels, Dns.encodeRecord, Dns.encodeData, announced]
  omega

/-- What the announcement takes at most. -/
theorem recordBound_announcement (s : MdnsService) (label : Bytes) :
    ((s.announcement label).map Dns.recordBound).sum =
      3 * label.length + (Dns.encodeStrings (keptItems s.records)).length + 181 := by
  have hlabels : Dns.nameBound (label :: serviceLabels) = label.length + 23 := by
    have hsum : (serviceLabels.map fun k => k.length + 1).sum = 20 := by decide
    simp only [Dns.nameBound, List.map_cons, List.sum_cons, hsum]
  have hservice : Dns.nameBound serviceLabels = 22 := by decide
  have htarget : Dns.nameBound targetLabels = 20 := by decide
  simp only [MdnsService.announcement, announced, List.map_cons, List.map_nil, List.sum_cons,
    List.sum_nil, Dns.recordBound, Dns.dataBound, hlabels, hservice, htarget]
  omega

/-- The header, and the first record with the name of the service as its data. -/
theorem makeResponse_begins {s : MdnsService} (htarget : s.target = ascii "gwl-airplay.local") :
    At s.makeResponse 0 (Dns.encodeHeader 0 0x8400 0 4 0 0) ∧
      At s.makeResponse 12 (Dns.recordHead serviceLabels 12 0x8001 4500 s.serviceName.length) ∧
      At s.makeResponse 43 s.serviceName := by
  have hhead : (Dns.encodeHeader 0 0x8400 0 4 0 0).length = 12 := rfl
  have hwhole := at_whole s.makeResponse
  nth_rewrite 2 [makeResponse_eq htarget] at hwhole
  have hrecord := hwhole.left.right
  rw [hhead] at hrecord
  have hname := hrecord.right
  rw [Dns.length_recordHead, length_serviceLabels] at hname
  exact ⟨hwhole.left.left, hrecord.left, hname⟩

/-- The target of the first record is what its data spells, where the length fits. -/
theorem decodeName_firstRecord {s : MdnsService} {target : List Bytes} {e : ℕ}
    (htarget : s.target = ascii "gwl-airplay.local") (hname : s.serviceName.length < 65536)
    (h : Dns.decodeRecord s.makeResponse 12 = some (announced serviceLabels 12 (.ptr target), e)) :
    Dns.decodeName s.makeResponse s.makeResponse.length 43 =
      some (target, 43 + s.serviceName.length) := by
  obtain ⟨-, hpiece, -⟩ := makeResponse_begins htarget
  obtain ⟨nameEnd, length, howner, -, hlength, -, hdata, -⟩ := Dns.decodeRecord_inv h
  unfold Dns.recordHead at hpiece
  have hnameEnd := Dns.decodeName_whole isLabel_serviceLabels hpiece.left.left.left.left
  obtain rfl := (Prod.mk.inj (Option.some.inj (howner.symm.trans hnameEnd))).2
  have hsize := hpiece.right.readNumber (show s.serviceName.length < 256 ^ 2 from hname)
  simp only [List.length_append, length_toBytes, length_serviceLabels, Nat.reduceAdd] at *
  obtain rfl := Option.some.inj (hlength.symm.trans hsize)
  exact Dns.decodeName_of_decodeData_ptr hdata

/-- Where the announcement can be read, the name is that of a label and the TXT data fits. -/
theorem of_decodeMessage {s : MdnsService} {label : Bytes} {m : Dns.Message}
    (htarget : s.target = ascii "gwl-airplay.local")
    (hm : Dns.decodeMessage s.makeResponse = some m) (hanswers : m.answers = s.announcement label) :
    UnderLabel s.instanceName label ∧
      (Dns.encodeStrings (keptItems s.records)).length ≤ 65535 := by
  obtain ⟨hheader, -, hstands⟩ := makeResponse_begins htarget
  have hread := Dns.answers_of_decodeMessage hheader (by decide) (by decide) (by decide) hm
  rw [hanswers] at hread
  have hbound := Dns.decodeMany_bound hread
  obtain ⟨after₁, hptr, hrest⟩ := Dns.decodeMany_cons hread
  obtain ⟨after₂, hsrv, hrest⟩ := Dns.decodeMany_cons hrest
  obtain ⟨after₃, htxt, -⟩ := Dns.decodeMany_cons hrest
  -- the TXT record was read, and its strings fill what a 16-bit length can say
  obtain ⟨nameEnd, length, howner, hlength, -, hfits, hdata, -⟩ := Dns.decodeRecord_inv htxt
  have hlabel : Dns.IsLabel label := (Dns.decodeName_bound howner).1 label List.mem_cons_self
  have hitems := Dns.length_of_decodeData_txt hfits hdata
  -- the name of the service stands three times in what four short records take
  have hname : s.serviceName.length < 65536 := by
    have hle := hlabel.2
    rw [length_makeResponse htarget, recordBound_announcement] at hbound
    omega
  have hdecoded := decodeName_firstRecord htarget hname hptr
  refine ⟨?_, by omega⟩
  exact underLabel_of_getlines hlabel (labels_of_decodeName hstands hdecoded)

/-- **Which services are announced.** -/
theorem announces_iff {s : MdnsService} (htarget : s.target = ascii "gwl-airplay.local") :
    s.Announces ↔ (∃ label, UnderLabel s.instanceName label) ∧
      (Dns.encodeStrings (keptItems s.records)).length ≤ 65535 := by
  refine ⟨?_, ?_⟩
  · intro h
    obtain ⟨label, m, -, hm, hanswers⟩ := h
    obtain ⟨hlabel, htxt⟩ := of_decodeMessage htarget hm hanswers
    exact ⟨⟨label, hlabel⟩, htxt⟩
  · intro h
    obtain ⟨⟨label, hlabel⟩, htxt⟩ := h
    exact ⟨label, _, hlabel.begins, decodeMessage_underLabel htarget hlabel htxt, rfl⟩

/-- No call changes the target. -/
theorem Network.run_target (events : List NetworkEvent) (i : ℕ) :
    ((run Network.step {} events).host i).target = ascii "gwl-airplay.local" := by
  have hkeep : ∀ (s : MdnsService) (instanceName : Bytes) (port : UInt16)
      (records : List MdnsTxtRecord) (sockets : Option (Option UInt32)),
      (s.publish instanceName port records sockets).2.2.target = s.target := by
    intro s instanceName port records sockets
    unfold MdnsService.publish
    cases s.active with
    | true => rfl
    | false => cases sockets <;> rfl
  apply run_induction (P := fun n : Network => ∀ i, (n.host i).target = ascii "gwl-airplay.local")
  · intro n event h j
    cases event with
    | publish k instanceName port records sockets =>
      by_cases hj : j = k
      · subst hj
        simp only [Network.step, Function.update_self, hkeep, h]
      · simp only [Network.step, Function.update_of_ne hj, h]
    | unpublish k =>
      by_cases hj : j = k
      · subst hj
        simp only [Network.step, Function.update_self, MdnsService.unpublish, h]
      · simp only [Network.step, Function.update_of_ne hj, h]
    | foreign d => exact h j
    | deliver k d => exact h j
  · intro j
    rfl

/-- **Which publications are announced**, in every run and on every host. -/
theorem publish_announces_iff (events : List NetworkEvent) (i : ℕ) (instanceName : Bytes)
    (port : UInt16) (records : List MdnsTxtRecord) (probe : Option UInt32)
    (hactive : ((run Network.step {} events).host i).active = false) :
    (((run Network.step {} events).host i).publish instanceName port records
        (some probe)).2.2.Announces ↔
      (∃ label, UnderLabel instanceName label) ∧
        (Dns.encodeStrings (keptItems records)).length ≤ 65535 := by
  have htarget := Network.run_target events i
  generalize (run Network.step {} events).host i = s at hactive htarget
  unfold MdnsService.publish
  rw [hactive]
  exact announces_iff htarget

/-- Two items are kept, the third is too long. -/
def kitchenRecords : List MdnsTxtRecord :=
  [⟨ascii "deviceid", ascii "02:00:00:00:00:01"⟩, ⟨ascii "model", ascii "AppleTV3,2"⟩,
    ⟨ascii "note", List.replicate 255 97⟩]

theorem publish_announces_kitchen :
    keptItems kitchenRecords = [ascii "deviceid=02:00:00:00:00:01", ascii "model=AppleTV3,2"] ∧
      ((({} : Network).host 0).publish (ascii "kitchen") 7000 kitchenRecords
        (some none)).2.2.Announces := by
  have hkept : keptItems kitchenRecords =
      [ascii "deviceid=02:00:00:00:00:01", ascii "model=AppleTV3,2"] := by decide +kernel
  refine ⟨hkept, (publish_announces_iff [] 0 (ascii "kitchen") 7000 kitchenRecords none rfl).mpr
    ⟨⟨ascii "kitchen", ?_, ?_, Or.inl rfl⟩, ?_⟩⟩
  · decide
  · decide
  · rw [hkept]
    decide

/-- A name of 64 bytes: no reader gets through the message. -/
theorem longName_unreadable :
    ¬ (({} : MdnsService).publish (List.replicate 64 97) 7000 [] (some none)).2.2.Announces := by
  have hnone : Dns.decodeMessage (({} : MdnsService).publish (List.replicate 64 97) 7000 []
      (some none)).2.2.makeResponse = none := by
    decide +kernel
  intro h
  obtain ⟨label, m, -, hm, -⟩ := h
  rw [hnone] at hm
  cases hm

end AirPlay2
