import MotionStage.Client.Discover

/-!
This module contains the way of a server from its advertisement to a client that looks for its name:
the TXT records that the daemon is given, and what the client reads out of them.
-/

namespace MotionStage

def Feature.debug : Feature → String
  | .motion => "Motion"
  | .mapping => "Mapping"
  | .recording => "Recording"
  | .video => "Video"
  | .hdr10 => "Hdr10"
  | .sdrFallback => "SdrFallback"

/--
`str::split_once`.
-/
def splitOnce (s : String) (separator : Char) : Option (String × String) :=
  match s.toList.dropWhile (fun c => c != separator) with
  | [] => none
  | _ :: rest => some (Text.firstSegment s separator, String.ofList rest)

namespace DiscoveryAdvertisement

def toTxtRecords (self : DiscoveryAdvertisement) : List String :=
  ["name" ++ "=" ++ self.serviceName,
    "proto_major" ++ "=" ++ toString self.protocolMajor,
    "proto_minor" ++ "=" ++ toString self.protocolMinor,
    "security" ++ "=" ++ self.securityMode,
    "features" ++ "=" ++ ",".intercalate (self.features.map Feature.debug)]

/--
The loop of `advertise` over the records.
-/
def txtMap (self : DiscoveryAdvertisement) : IndexMap String String :=
  self.toTxtRecords.foldl
    (fun txtMap entry =>
      match splitOnce entry '=' with
      | some (k, v) => txtMap.insert k v
      | none => txtMap)
    .empty

end DiscoveryAdvertisement

def hostnameChar (ch : Char) : Char := if ch.isAlphanum || ch == '-' then ch.toLower else '-'

def hostnameLabel (serviceName : String) : String :=
  let normalized := ((serviceName.toList.map hostnameChar).dropWhile fun c => c == '-').rdropWhile
    fun c => c == '-'
  if normalized = [] then "motionstage" else String.ofList normalized

def localHostnameForService (serviceName : String) : String :=
  hostnameLabel serviceName ++ ".local."

/--
What a browser is told of a service that has been registered: the daemon hands on its name, its
port and its records. Both numbers of the version are `u16`.
-/
structure Registered (advertisement : DiscoveryAdvertisement) (info : ServiceInfo) : Prop where
  fullname : info.fullname = advertisement.instanceName
  hostname : info.hostname = localHostnameForService advertisement.serviceName
  port : info.port = advertisement.bindPort
  records : info.propertyValStr = advertisement.txtMap.get?
  major : advertisement.protocolMajor < 2 ^ 16
  minor : advertisement.protocolMinor < 2 ^ 16

theorem splitOnce_append {key : String} {separator : Char} (h : separator ∉ key.toList)
    (value : String)
    : splitOnce (key ++ String.singleton separator ++ value) separator = some (key, value) := by
  have hdrop : (key ++ String.singleton separator ++ value).toList.dropWhile
      (fun c => c != separator) = separator :: value.toList := by
    rw [String.toList_append, String.toList_append, List.append_assoc, List.dropWhile_append_of_pos]
    . simp
    . intro c hc
      have hne : c ≠ separator := fun heq => h (heq ▸ hc)
      simpa using hne
  rw [splitOnce, hdrop, Text.firstSegment_append h]
  show some (key, String.ofList value.toList) = _
  rw [String.ofList_toList]

theorem splitOnce_record {key : String} (h : '=' ∉ key.toList) (value : String)
    : splitOnce (key ++ "=" ++ value) '=' = some (key, value) :=
  splitOnce_append h value

theorem get?_txtMap (self : DiscoveryAdvertisement)
    : self.txtMap.get? "name" = some self.serviceName
        ∧ self.txtMap.get? "proto_major" = some (toString self.protocolMajor)
        ∧ self.txtMap.get? "proto_minor" = some (toString self.protocolMinor)
        ∧ self.txtMap.get? "security" = some self.securityMode := by
  have hname : '=' ∉ "name".toList := by decide
  have hmajor : '=' ∉ "proto_major".toList := by decide
  have hminor : '=' ∉ "proto_minor".toList := by decide
  have hsecurity : '=' ∉ "security".toList := by decide
  have hfeatures : '=' ∉ "features".toList := by decide
  simp only [DiscoveryAdvertisement.txtMap, DiscoveryAdvertisement.toTxtRecords, List.foldl_cons,
    List.foldl_nil, splitOnce_record hname, splitOnce_record hmajor, splitOnce_record hminor,
    splitOnce_record hsecurity, splitOnce_record hfeatures, IndexMap.get?_insert]
  simp

theorem parseU16_toString {n : Nat} (h : n < 2 ^ 16) : parseU16 (toString n) = some n := by
  have hdigits : (toString n).toList = Nat.toDigits 10 n := by
    rw [Nat.toString_eq_repr, Nat.toList_repr]
  have hall : ∀ c ∈ Nat.toDigits 10 n, c.isDigit = true :=
    fun c hc => Nat.isDigit_of_mem_toDigits (by decide) (by decide) hc
  have hvalue : (Nat.toDigits 10 n).foldl (fun n c => 10 * n + (c.toNat - '0'.toNat)) 0 = n := by
    rw [← Nat.ofDigitChars_eq_foldl, Nat.ofDigitChars_ten_toDigits]
  unfold parseU16
  rw [hdigits]
  split
  . next digits hplus =>
    have hmem : '+' ∈ Nat.toDigits 10 n := hplus ▸ List.mem_cons_self
    exact absurd (hall '+' hmem) (by decide)
  . dsimp only
    rw [hvalue, if_pos ⟨Nat.toDigits_ne_nil, List.all_eq_true.mpr hall, h⟩]

/--
A part of a host name: lower case letters, digits and hyphens, without a hyphen at either end.
-/
structure HostLabel (label : String) : Prop where
  chars : ∀ c ∈ label.toList, c = '-' ∨ c.isLower = true ∨ c.isDigit = true
  first : ∀ c, label.toList.head? = some c → c ≠ '-'
  last : ∀ c, label.toList.getLast? = some c → c ≠ '-'
  nonempty : label ≠ ""

theorem isLower_or_isDigit_toLower {c : Char} (h : c.isAlphanum = true)
    : c.toLower.isLower = true ∨ c.toLower.isDigit = true := by
  delta Char.isAlphanum Char.isAlpha Char.isUpper Char.isLower Char.isDigit at h
  delta Char.isLower Char.isDigit Char.toLower
  simp only [Bool.or_eq_true, Bool.and_eq_true, decide_eq_true_eq, ge_iff_le,
    UInt32.le_iff_toNat_le] at h ⊢
  split
  . grind [UInt32.toNat_add]
  . grind

theorem hostnameChar_cases (ch : Char)
    : hostnameChar ch = '-' ∨ (hostnameChar ch).isLower = true
        ∨ (hostnameChar ch).isDigit = true := by
  unfold hostnameChar
  split
  . next h =>
    rcases Bool.or_eq_true_iff.mp h with halphanum | hhyphen
    . exact .inr (isLower_or_isDigit_toLower halphanum)
    . rw [beq_iff_eq.mp hhyphen]
      exact .inl rfl
  . exact .inl rfl

theorem hostLabel_motionstage : HostLabel "motionstage" := by
  have hlower : ("motionstage".toList.all fun c => c.isLower) = true := by decide
  have hfirst : "motionstage".toList.head? = some 'm' := rfl
  have hlast : "motionstage".toList.getLast? = some 'e' := rfl
  constructor
  . exact fun c hc => .inr (.inl (List.all_eq_true.mp hlower c hc))
  . intro c hc
    rw [hfirst] at hc
    cases hc
    decide
  . intro c hc
    rw [hlast] at hc
    cases hc
    decide
  . decide

theorem hostLabel_hostnameLabel (serviceName : String) : HostLabel (hostnameLabel serviceName) := by
  unfold hostnameLabel
  dsimp only
  split
  . exact hostLabel_motionstage
  . next hne =>
    have hall : ∀ c ∈ serviceName.toList.map hostnameChar,
        c = '-' ∨ c.isLower = true ∨ c.isDigit = true := by
      intro c hc
      obtain ⟨ch, -, rfl⟩ := List.mem_map.mp hc
      exact hostnameChar_cases ch
    generalize serviceName.toList.map hostnameChar = chars at hne hall
    have hstart := List.rdropWhile_prefix (fun c => c == '-') (chars.dropWhile fun c => c == '-')
    constructor
    . intro c hc
      rw [String.toList_ofList] at hc
      exact hall c ((List.dropWhile_suffix _).subset (hstart.subset hc))
    . intro c hc
      rw [String.toList_ofList] at hc
      -- what is left of the trailing hyphens begins as the rest does
      obtain ⟨tail, htail⟩ := hstart
      have hfirst := List.head?_dropWhile_not (fun c => c == '-') chars
      rw [← htail, List.head?_append, hc] at hfirst
      simpa using hfirst
    . intro c hc
      rw [String.toList_ofList, List.getLast?_eq_some_getLast hne, Option.some.injEq] at hc
      have hlast := List.rdropWhile_last_not (fun c => c == '-')
        (chars.dropWhile fun c => c == '-') hne
      rw [hc] at hlast
      simpa using hlast
    . intro hempty
      apply hne
      simpa using congrArg String.toList hempty

section Found

variable {advertisement : DiscoveryAdvertisement} {info : ServiceInfo} {name : String}

theorem fromInfo_registered (h : Registered advertisement info)
    : DiscoveredService.fromInfo info
        =
      { serviceName := advertisement.serviceName
        fullname := advertisement.instanceName
        hostName := localHostnameForService advertisement.serviceName
        addresses := info.addresses.mergeSort fun a b => decide (a.display ≤ b.display)
        port := advertisement.bindPort
        protocolMajor := some advertisement.protocolMajor
        protocolMinor := some advertisement.protocolMinor } := by
  obtain ⟨hname, hmajor, hminor, -⟩ := get?_txtMap advertisement
  simp only [DiscoveredService.fromInfo, h.records, h.fullname, h.hostname, h.port, hname, hmajor,
    hminor, Option.getD_some, Option.bind_some, parseU16_toString h.major,
    parseU16_toString h.minor]

def GoesBy (name : String) (advertisement : DiscoveryAdvertisement) (info : ServiceInfo) : Prop :=
  info.addresses ≠ []
    ∧ Simulate.normalizeServiceName advertisement.serviceName = Simulate.normalizeServiceName name

theorem offers_registered (h : Registered advertisement info)
    : (GoesBy name advertisement info →
          (ServiceEvent.serviceResolved info).offers name = some (.fromInfo info))
        ∧ (¬ GoesBy name advertisement info →
          (ServiceEvent.serviceResolved info).offers name = none) := by
  have haddresses : (DiscoveredService.fromInfo info).addresses ≠ [] ↔ info.addresses ≠ [] := by
    rw [fromInfo_registered h, ← List.length_pos_iff, List.length_mergeSort, List.length_pos_iff]
  have hname : (DiscoveredService.fromInfo info).serviceName = advertisement.serviceName := by
    rw [fromInfo_registered h]
  simp only [ServiceEvent.offers, haddresses, hname, GoesBy]
  exact ⟨fun hgoes => if_pos hgoes, fun hgoes => if_neg hgoes⟩

def foundAt (advertisement : DiscoveryAdvertisement) (ip : IpAddr)
    : Simulate.ResolvedConnectTarget :=
  .discovered advertisement.serviceName ⟨ip, advertisement.bindPort⟩
    (localHostnameForService advertisement.serviceName) (some advertisement.protocolMajor)
    (some advertisement.protocolMinor)

theorem candidate_registered (h : Registered advertisement info) {endpoint : SocketAddr}
    (hendpoint : Simulate.selectPreferredEndpoint (.fromInfo info) = some endpoint)
    : ∃ ip ∈ info.addresses, Simulate.candidate (.fromInfo info) endpoint
        = foundAt advertisement ip := by
  obtain ⟨hport, hip, -⟩ := Simulate.selectPreferredEndpoint_eq_some hendpoint
  rw [fromInfo_registered h] at hport hip ⊢
  obtain ⟨ip, port⟩ := endpoint
  cases hport
  exact ⟨ip, List.mem_mergeSort.mp hip, rfl⟩

def AllRegistered (published : List DiscoveryAdvertisement) (events : List ServiceEvent) : Prop :=
  ∀ info, .serviceResolved info ∈ events →
    ∃ advertisement ∈ published, Registered advertisement info

def Announces (name : String) (published : List DiscoveryAdvertisement) (event : ServiceEvent)
    : Prop :=
  ∃ advertisement ∈ published, ∃ info, event = .serviceResolved info
    ∧ Registered advertisement info ∧ GoesBy name advertisement info

theorem discoverLoop_registered {published : List DiscoveryAdvertisement}
    {events : List ServiceEvent} (h : AllRegistered published events) (timeoutSecs : Nat)
    (disconnected : Bool) (candidates : IndexMap String Simulate.ResolvedConnectTarget)
    : (∃ advertisement ∈ published, ∃ info,
          .serviceResolved info ∈ events.takeWhile ServiceEvent.isResolved
            ∧ Registered advertisement info ∧ GoesBy name advertisement info
            ∧ ∃ ip ∈ info.addresses,
              Simulate.discoverLoop (some name) timeoutSecs disconnected events candidates
                = .ok (foundAt advertisement ip))
        ∨
      ((∀ event ∈ events.takeWhile ServiceEvent.isResolved, ¬ Announces name published event)
        ∧ (Simulate.discoverLoop (some name) timeoutSecs disconnected events candidates).isOk
          = false) := by
  induction events with
  | nil =>
    refine .inr ⟨by simp, ?_⟩
    cases disconnected <;> rfl
  | cons event events ih =>
    cases hresolved : event.isResolved with
    | false =>
      refine .inr ⟨?_, discoverLoop_of_not_resolved hresolved⟩
      simp [hresolved]
    | true =>
      rw [List.takeWhile_cons, if_pos hresolved]
      by_cases hannounces : Announces name published event
      . obtain ⟨advertisement, hmem, info, rfl, hregistered, hgoes⟩ := hannounces
        obtain ⟨endpoint, hendpoint, hloop⟩ := discoverLoop_of_offers
          ((offers_registered hregistered).1 hgoes)
        obtain ⟨ip, hip, hcandidate⟩ := candidate_registered hregistered hendpoint
        exact .inl ⟨advertisement, hmem, info, List.mem_cons_self, hregistered, hgoes, ip, hip,
          hcandidate ▸ hloop⟩
      . have hoffers : event.offers name = none := by
          cases event with
          | serviceResolved info =>
            obtain ⟨advertisement, hmem, hregistered⟩ := h info List.mem_cons_self
            exact (offers_registered hregistered).2 fun hgoes =>
              hannounces ⟨advertisement, hmem, info, rfl, hregistered, hgoes⟩
          | _ => rfl
        rw [discoverLoop_of_resolved hoffers hresolved]
        rcases ih fun info hinfo => h info (List.mem_cons_of_mem _ hinfo) with
          ⟨advertisement, hmem, info, hinfo, hfound⟩ | ⟨hnone, herror⟩
        . exact .inl ⟨advertisement, hmem, info, List.mem_cons_of_mem _ hinfo, hfound⟩
        . refine .inr ⟨?_, herror⟩
          rintro _ (- | ⟨-, hevent⟩)
          . exact hannounces
          . exact hnone _ hevent

theorem discovers_registered {published : List DiscoveryAdvertisement} {receiver : BrowseReceiver}
    (h : AllRegistered published receiver.events) (name : String) (timeoutSecs : Nat)
    : let result := Simulate.discoverConnectTarget (some name) timeoutSecs (.ok receiver)
      (result.isOk = true
          ↔ ∃ event ∈ receiver.events.takeWhile ServiceEvent.isResolved,
            Announces name published event)
        ∧ (∀ target, result = .ok target → ∃ advertisement ∈ published, ∃ info,
          .serviceResolved info ∈ receiver.events.takeWhile ServiceEvent.isResolved
            ∧ Registered advertisement info ∧ GoesBy name advertisement info
            ∧ ∃ ip ∈ info.addresses, target = foundAt advertisement ip)
        ∧ ∀ advertisement ∈ published, HostLabel (hostnameLabel advertisement.serviceName) := by
  intro result
  have hlabels : ∀ advertisement ∈ published, HostLabel (hostnameLabel advertisement.serviceName) :=
    fun advertisement _ => hostLabel_hostnameLabel advertisement.serviceName
  rcases discoverLoop_registered h timeoutSecs receiver.disconnected .empty with
    ⟨advertisement, hmem, info, hinfo, hregistered, hgoes, ip, hip, hfound⟩ | ⟨hnone, herror⟩
  . have hresult : result = .ok (foundAt advertisement ip) := hfound
    refine ⟨iff_of_true ?_ ⟨_, hinfo, advertisement, hmem, info, rfl, hregistered, hgoes⟩, ?_,
      hlabels⟩
    . rw [hresult]
      rfl
    . intro target htarget
      rw [hresult] at htarget
      cases htarget
      exact ⟨advertisement, hmem, info, hinfo, hregistered, hgoes, ip, hip, rfl⟩
  . have hresult : result.isOk = false := herror
    refine ⟨iff_of_false ?_ ?_, ?_, hlabels⟩
    . rw [hresult]
      exact Bool.false_ne_true
    . rintro ⟨event, hevent, hannounces⟩
      exact hnone event hevent hannounces
    . intro target htarget
      rw [htarget] at hresult
      cases hresult

end Found

def stageAdvertisement : DiscoveryAdvertisement where
  serviceName := "Stage=A"
  bindHost := "0.0.0.0"
  bindPort := 7788
  protocolMajor := 1
  protocolMinor := 0
  features := [.motion, .sdrFallback]
  securityMode := "trusted_lan"

def stageRegistered : ServiceInfo where
  fullname := stageAdvertisement.instanceName
  hostname := localHostnameForService stageAdvertisement.serviceName
  addresses := [.v4 0x0A000005]
  port := stageAdvertisement.bindPort
  propertyValStr := stageAdvertisement.txtMap.get?

def otherAdvertisement : DiscoveryAdvertisement :=
  { stageAdvertisement with serviceName := "Stage B", bindPort := 7789 }

def otherRegistered : ServiceInfo where
  fullname := otherAdvertisement.instanceName
  hostname := localHostnameForService otherAdvertisement.serviceName
  addresses := [.v4 0x0A000006]
  port := otherAdvertisement.bindPort
  propertyValStr := otherAdvertisement.txtMap.get?

def searching : ServiceEvent := .searchStarted serviceType

theorem registered_stage : Registered stageAdvertisement stageRegistered :=
  ⟨rfl, rfl, rfl, rfl, by decide, by decide⟩

theorem registered_other : Registered otherAdvertisement otherRegistered :=
  ⟨rfl, rfl, rfl, rfl, by decide, by decide⟩

theorem allRegistered_stage {events : List ServiceEvent}
    (h : events ⊆ [searching, .serviceResolved otherRegistered, .serviceResolved stageRegistered])
    : AllRegistered [stageAdvertisement, otherAdvertisement] events := by
  intro info hinfo
  have hevent := h hinfo
  simp only [List.mem_cons, searching, reduceCtorEq, ServiceEvent.serviceResolved.injEq,
    List.not_mem_nil, or_false, false_or] at hevent
  rcases hevent with rfl | rfl
  . exact ⟨_, by simp, registered_other⟩
  . exact ⟨_, by simp, registered_stage⟩

/--
The server is found behind another one, but not behind the event of a search that starts.
-/
theorem discovers_registered_stage
    : (Simulate.discoverConnectTarget (some " stage=a") 5
          (.ok ⟨[.serviceResolved otherRegistered, .serviceResolved stageRegistered, searching],
            false⟩)).isOk = true
        ∧ (Simulate.discoverConnectTarget (some " stage=a") 5
          (.ok ⟨[.serviceResolved otherRegistered, searching, .serviceResolved stageRegistered],
            false⟩)).isOk = false := by
  constructor
  . refine (discovers_registered (allRegistered_stage (by simp)) " stage=a" 5).1.mpr ?_
    exact ⟨.serviceResolved stageRegistered, .tail _ (.head _), stageAdvertisement,
      List.mem_cons_self, stageRegistered, rfl, registered_stage, by decide, by decide⟩
  . rw [← Bool.not_eq_true, (discovers_registered (allRegistered_stage (by simp)) " stage=a" 5).1]
    rintro ⟨event, hevent, advertisement, hmem, info, rfl, hregistered, -, hname⟩
    have hother : info = otherRegistered := by
      rcases hevent with - | ⟨-, hnone⟩
      . rfl
      . cases hnone
    subst hother
    rcases hmem with - | ⟨-, - | ⟨-, hnone⟩⟩
    . exact absurd hregistered.port (by decide)
    . exact absurd hname (by decide)
    . cases hnone

end MotionStage
