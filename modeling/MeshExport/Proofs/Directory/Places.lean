import Mathlib.Data.List.Basic
import Mathlib.Order.Basic
import MeshExport.Proofs.Directory.Endpoints

/-! The endpoints of a slice, place by place. A place is an endpoint of the slice, an address of that
endpoint and a port of the slice, by their positions. The slice offers an endpoint there if the address
can be read, the port is in range and nobody said that the endpoint is not ready; the endpoints of the
slice are what it offers, in lexicographic order of the places. -/

namespace MeshExport

/-! Elements kept together with their positions. -/

section positions

variable {α β κ : Type}

/-- What `f` makes of the elements of a list, each with its position. -/
def placeSome (f : α → Option β) (xs : List α) : List (Nat × β) :=
  xs.zipIdx.filterMap fun x => (f x.1).map (x.2, ·)

/-- What `f` makes of the elements of a list at places of their own, behind the position of each. -/
def placeEach (f : α → List (κ × β)) (xs : List α) : List ((Nat × κ) × β) :=
  xs.zipIdx.flatMap fun x => (f x.1).map fun y => ((x.2, y.1), y.2)

theorem pairwise_zipIdx (xs : List α) : xs.zipIdx.Pairwise fun x y => x.2 < y.2 := by
  rw [← List.pairwise_map, List.zipIdx_map_snd]
  exact List.pairwise_lt_range'

theorem map_snd_placeSome (f : α → Option β) (xs : List α) :
    (placeSome f xs).map Prod.snd = xs.filterMap f := by
  conv_rhs => rw [← List.zipIdx_map_fst 0 xs]
  rw [placeSome, List.map_filterMap, List.filterMap_map]
  refine List.filterMap_congr fun x _ => ?_
  cases hx : f x.1 <;> simp [hx]

theorem mem_placeSome {f : α → Option β} {xs : List α} {i : Nat} {b : β} :
    (i, b) ∈ placeSome f xs ↔ ∃ x, xs[i]? = some x ∧ f x = some b := by
  simp only [placeSome, List.mem_filterMap, Prod.exists, List.mem_zipIdx_iff_getElem?,
    Option.map_eq_some_iff, Prod.mk.injEq]
  constructor
  · rintro ⟨x, i', hx, b', hb, rfl, rfl⟩
    exact ⟨x, hx, hb⟩
  · rintro ⟨x, hx, hb⟩
    exact ⟨x, i, hx, b, hb, rfl, rfl⟩

theorem pairwise_placeSome (f : α → Option β) (xs : List α) :
    ((placeSome f xs).map Prod.fst).Pairwise (· < ·) := by
  rw [List.pairwise_map, placeSome, List.pairwise_filterMap]
  refine (pairwise_zipIdx xs).imp fun {x y} hxy b hb c hc => ?_
  obtain ⟨_, -, rfl⟩ := Option.map_eq_some_iff.mp hb
  obtain ⟨_, -, rfl⟩ := Option.map_eq_some_iff.mp hc
  exact hxy

theorem map_snd_placeEach (f : α → List (κ × β)) (xs : List α) :
    (placeEach f xs).map Prod.snd = xs.flatMap fun x => (f x).map Prod.snd := by
  conv_rhs => rw [← List.zipIdx_map_fst 0 xs]
  rw [placeEach, List.map_flatMap, List.flatMap_map]
  refine List.flatMap_congr fun x _ => ?_
  rw [List.map_map]
  rfl

theorem mem_placeEach {f : α → List (κ × β)} {xs : List α} {i : Nat} {k : κ} {b : β} :
    ((i, k), b) ∈ placeEach f xs ↔ ∃ x, xs[i]? = some x ∧ (k, b) ∈ f x := by
  simp only [placeEach, List.mem_flatMap, List.mem_map, Prod.exists, List.mem_zipIdx_iff_getElem?,
    Prod.mk.injEq]
  constructor
  · rintro ⟨x, i', hx, k', b', hm, ⟨rfl, rfl⟩, rfl⟩
    exact ⟨x, hx, hm⟩
  · rintro ⟨x, hx, hm⟩
    exact ⟨x, i, hx, k, b, hm, ⟨rfl, rfl⟩, rfl⟩

theorem pairwise_placeEach {r : κ → κ → Prop} {f : α → List (κ × β)} (xs : List α)
    (h : ∀ x, ((f x).map Prod.fst).Pairwise r) :
    ((placeEach f xs).map Prod.fst).Pairwise (Prod.Lex (· < ·) r) := by
  rw [List.pairwise_map, placeEach, List.pairwise_flatMap]
  constructor
  · -- behind one position the order is that of the places there
    intro x _
    rw [List.pairwise_map]
    exact (List.pairwise_map.mp (h x.1)).imp fun hr => .right _ hr
  · refine (pairwise_zipIdx xs).imp fun {x y} hxy a ha b hb => ?_
    obtain ⟨_, -, rfl⟩ := List.mem_map.mp ha
    obtain ⟨_, -, rfl⟩ := List.mem_map.mp hb
    exact .left _ _ hxy

end positions

theorem SliceEndpoint.isReady_iff (e : SliceEndpoint) :
    e.isReady = true ↔ e.conditions.bind (·.ready) ≠ some false := by
  unfold isReady
  cases e.conditions.bind (·.ready) with
  | none => simp
  | some ready => cases ready <;> simp

namespace SlicePort

def isValid (p : SlicePort) : Bool := p.port.any fun n => 0 ≤ n.toInt ∧ n.toInt ≤ 65535

theorem number?_eq_some_iff (p : SlicePort) (port : UInt16) :
    p.number? = some port ↔
      ∃ n, p.port = some n ∧ 0 ≤ n.toInt ∧ n.toInt ≤ 65535 ∧ (port.toNat : Int) = n.toInt := by
  unfold number?
  cases p.port with
  | none => simp
  | some n =>
    simp only [Option.bind_some, Option.some.injEq, exists_eq_left']
    have hsize : (UInt16.size : Int) = 65536 := rfl
    split
    · next h =>
      have hport : (n.toInt.toNat.toUInt16).toNat = n.toInt.toNat := by
        rw [Nat.toUInt16_eq, UInt16.toNat_ofNat_of_lt']
        omega
      rw [Option.some.injEq, ← UInt16.toNat_inj, hport]
      omega
    · next h =>
      constructor
      · intro hn
        cases hn
      · rintro ⟨hlow, hhigh, -⟩
        omega

theorem isSome_number? (p : SlicePort) : p.number?.isSome = p.isValid := by
  unfold number? isValid
  cases p.port with
  | none => rfl
  | some n =>
    have hsize : (UInt16.size : Int) = 65536 := rfl
    rw [Option.bind_some, Option.any_some, Bool.eq_iff_iff, decide_eq_true_eq]
    split <;> simp <;> omega

end SlicePort

namespace EndpointSlice

variable (parse : String → Option IpAddress) (cluster : ClusterId) (service : ServiceId)
  (s : EndpointSlice)

/-- What the slice offers at a place. -/
structure Offers (place : Nat × Nat × Nat) (x : Endpoint) : Prop where
  /-- An address that can be read, of an endpoint that is not said to be unready. -/
  address : ∃ e address, s.endpoints[place.1]? = some e ∧ e.conditions.bind (·.ready) ≠ some false ∧
    e.addresses[place.2.1]? = some address ∧ parse address = some x.addr.ip
  /-- The value of a port, as it is. -/
  port : ∃ p n, (s.ports.getD [])[place.2.2]? = some p ∧ p.port = some n ∧ 0 ≤ n.toInt ∧
    n.toInt ≤ 65535 ∧ (x.addr.port.toNat : Int) = n.toInt
  scope : x.addr.scope = 0
  service : x.service = service
  cluster : x.cluster = cluster
  labels : x.labels = s.metadata.labels.getD ∅

def placedPorts (ip : IpAddress) : List (Nat × Endpoint) :=
  placeSome (fun p => p.number?.map fun port =>
    ⟨service, cluster, .of ip port, s.metadata.labels.getD ∅⟩) (s.ports.getD [])

/-- The endpoints of the slice, each with its place. -/
def placed : List ((Nat × Nat × Nat) × Endpoint) :=
  placeEach (fun e =>
    if e.isReady then
      placeEach (fun address => (parse address).elim [] (s.placedPorts cluster service)) e.addresses
    else []) s.endpoints

theorem map_snd_placedPorts (ip : IpAddress) :
    (s.placedPorts cluster service ip).map Prod.snd =
      s.portNumbers.map fun port => ⟨service, cluster, .of ip port, s.metadata.labels.getD ∅⟩ := by
  rw [placedPorts, map_snd_placeSome, portNumbers, List.map_filterMap]

theorem map_snd_placed (h : s.isIp = true) :
    (s.placed parse cluster service).map Prod.snd = (s.endpointsOf parse cluster service).value := by
  rw [value_endpointsOf, if_pos h, placed, map_snd_placeEach]
  refine List.flatMap_congr fun e _ => ?_
  split
  · rw [map_snd_placeEach]
    refine List.flatMap_congr fun address _ => ?_
    rw [value_addressEndpoints]
    cases parse address with
    | none => rfl
    | some ip => exact s.map_snd_placedPorts cluster service ip
  · rfl

/-- Places are in lexicographic order, and none occurs twice. -/
theorem pairwise_placed :
    ((s.placed parse cluster service).map Prod.fst).Pairwise
      (Prod.Lex (· < ·) (Prod.Lex (· < ·) (· < ·))) := by
  refine pairwise_placeEach s.endpoints fun e => ?_
  split
  · refine pairwise_placeEach e.addresses fun address => ?_
    cases parse address with
    | none => exact .nil
    | some ip =>
      rw [Option.elim_some, placedPorts]
      exact pairwise_placeSome ..
  · exact .nil

theorem mem_placedPorts {ip : IpAddress} {k : Nat} {x : Endpoint} :
    (k, x) ∈ s.placedPorts cluster service ip ↔
      (∃ p n, (s.ports.getD [])[k]? = some p ∧ p.port = some n ∧ 0 ≤ n.toInt ∧ n.toInt ≤ 65535 ∧
        (x.addr.port.toNat : Int) = n.toInt) ∧
      x = ⟨service, cluster, .of ip x.addr.port, s.metadata.labels.getD ∅⟩ := by
  simp only [placedPorts, mem_placeSome, Option.map_eq_some_iff, SlicePort.number?_eq_some_iff]
  constructor
  · rintro ⟨p, hp, port, ⟨n, hn, hrange⟩, rfl⟩
    exact ⟨⟨p, n, hp, hn, hrange⟩, rfl⟩
  · rintro ⟨⟨p, n, hp, hn, hrange⟩, hx⟩
    exact ⟨p, hp, x.addr.port, ⟨n, hn, hrange⟩, hx.symm⟩

theorem mem_placed {place : Nat × Nat × Nat} {x : Endpoint} :
    (place, x) ∈ s.placed parse cluster service ↔ s.Offers parse cluster service place x := by
  obtain ⟨i, j, k⟩ := place
  rw [placed, mem_placeEach]
  constructor
  · rintro ⟨e, he, hm⟩
    split at hm
    · next hready =>
      obtain ⟨address, ha, hm⟩ := mem_placeEach.mp hm
      cases hip : parse address with
      | none =>
        rw [hip] at hm
        cases hm
      | some ip =>
        rw [hip, Option.elim_some, mem_placedPorts] at hm
        obtain ⟨hport, hx⟩ := hm
        rw [hx]
        exact ⟨⟨e, address, he, e.isReady_iff.mp hready, ha, hip⟩, hport, rfl, rfl, rfl, rfl⟩
    · cases hm
  · rintro ⟨⟨e, address, he, hready, ha, hip⟩, hport, hscope, hservice, hcluster, hlabels⟩
    refine ⟨e, he, ?_⟩
    rw [if_pos (e.isReady_iff.mpr hready), mem_placeEach]
    refine ⟨address, ha, ?_⟩
    rw [hip, Option.elim_some, mem_placedPorts, SocketAddress.of, ← hscope, ← hservice, ← hcluster,
      ← hlabels]
    exact ⟨hport, rfl⟩

def readyAddresses : List String :=
  (s.endpoints.filter fun e => e.conditions.bind (·.ready) ≠ some false).flatMap (·.addresses)

/-- The slice without the addresses that cannot be read and the ports that are not in range. -/
def sound : EndpointSlice :=
  { s with
    endpoints := s.endpoints.map fun e =>
      { e with addresses := e.addresses.filter fun address => (parse address).isSome }
    ports := s.ports.map fun ports => ports.filter SlicePort.isValid }

theorem flatMap_addressEndpoints (addresses : List String) :
    (addresses.flatMap fun address => (s.addressEndpoints parse cluster service address).value) =
      (addresses.filterMap parse).flatMap fun ip =>
        s.portNumbers.map fun port => ⟨service, cluster, .of ip port, s.metadata.labels.getD ∅⟩ := by
  induction addresses with
  | nil => rfl
  | cons address addresses ih =>
    rw [List.flatMap_cons, ih, value_addressEndpoints]
    cases hip : parse address with
    | none => rw [List.filterMap_cons_none hip]; rfl
    | some ip => rw [List.filterMap_cons_some hip, List.flatMap_cons]; rfl

theorem readyAddresses_eq :
    s.readyAddresses = s.endpoints.flatMap fun e => if e.isReady then e.addresses else [] := by
  have hready : s.endpoints.filter (fun e => e.conditions.bind (·.ready) ≠ some false) =
      s.endpoints.filter (·.isReady) :=
    List.filter_congr fun e _ => by rw [Bool.eq_iff_iff, decide_eq_true_eq, e.isReady_iff]
  rw [readyAddresses, hready]
  induction s.endpoints with
  | nil => rfl
  | cons e es ih =>
    cases he : e.isReady <;> simp [he, ih]

/-- The endpoints are the addresses that can be read times the valid ports. -/
theorem value_endpointsOf_eq_product :
    (s.endpointsOf parse cluster service).value =
      if s.isIp then
        (s.readyAddresses.filterMap parse).flatMap fun ip =>
          s.portNumbers.map fun port => ⟨service, cluster, .of ip port, s.metadata.labels.getD ∅⟩
      else [] := by
  rw [value_endpointsOf, readyAddresses_eq, List.filterMap_flatMap, List.flatMap_assoc]
  refine if_congr Iff.rfl (List.flatMap_congr fun e _ => ?_) rfl
  rw [flatMap_addressEndpoints]
  split <;> rfl

theorem length_portNumbers : s.portNumbers.length = (s.ports.getD []).countP SlicePort.isValid := by
  rw [portNumbers, List.length_filterMap_eq_countP]
  exact List.countP_congr fun p _ => by rw [p.isSome_number?]

theorem length_endpointsOf (h : s.isIp = true) :
    (s.endpointsOf parse cluster service).value.length =
      s.readyAddresses.countP (fun address => (parse address).isSome) *
        (s.ports.getD []).countP SlicePort.isValid := by
  rw [value_endpointsOf_eq_product, if_pos h, List.length_flatMap, ← length_portNumbers,
    ← List.length_filterMap_eq_countP]
  simp

theorem filterMap_readyAddresses_sound :
    (s.sound parse).readyAddresses.filterMap parse = s.readyAddresses.filterMap parse := by
  have hread (addresses : List String) :
      (addresses.filter fun address => (parse address).isSome).filterMap parse =
        addresses.filterMap parse := by
    rw [List.filterMap_filter]
    refine List.filterMap_congr fun address _ => ?_
    cases parse address <;> rfl
  simp only [readyAddresses, sound, List.filter_map, List.flatMap_map, List.filterMap_flatMap, hread]
  rfl

theorem portNumbers_sound : (s.sound parse).portNumbers = s.portNumbers := by
  simp only [portNumbers, sound]
  cases s.ports with
  | none => rfl
  | some ports =>
    rw [Option.map_some, Option.getD_some, Option.getD_some, List.filterMap_filter]
    refine List.filterMap_congr fun p _ => ?_
    rw [← p.isSome_number?]
    cases p.number? <;> rfl

theorem value_endpointsOf_sound :
    ((s.sound parse).endpointsOf parse cluster service).value =
      (s.endpointsOf parse cluster service).value := by
  rw [value_endpointsOf_eq_product, value_endpointsOf_eq_product, filterMap_readyAddresses_sound,
    portNumbers_sound]
  rfl

theorem isIp_iff : s.isIp = true ↔ s.addressType ∈ ["IPv4", "IPv6"] := by
  simp [isIp]

/-- A slice that does not hold IP addresses stands for no endpoints. Any other stands for one at each
place where it offers one, in the order of the endpoints, then of the addresses of an endpoint, then of
the ports; so there are as many as there are readable addresses in endpoints not said to be unready,
times the ports in range. An address that cannot be read, or a port that is not in range, takes nothing
away but its own endpoints. -/
theorem endpointsOf_exact (parse : String → Option IpAddress) (cluster : ClusterId)
    (service : ServiceId) (s : EndpointSlice) :
    let built := (s.endpointsOf parse cluster service).value
    (s.addressType ∉ ["IPv4", "IPv6"] → built = []) ∧
      (s.addressType ∈ ["IPv4", "IPv6"] →
        (∃ placed : List ((Nat × Nat × Nat) × Endpoint),
          built = placed.map Prod.snd ∧
          (placed.map Prod.fst).Pairwise (Prod.Lex (· < ·) (Prod.Lex (· < ·) (· < ·))) ∧
          ∀ place x, (place, x) ∈ placed ↔ s.Offers parse cluster service place x) ∧
        built.length =
          s.readyAddresses.countP (fun address => (parse address).isSome) *
            (s.ports.getD []).countP SlicePort.isValid) ∧
      built = ((s.sound parse).endpointsOf parse cluster service).value := by
  intro built
  refine ⟨fun h => ?_, fun h => ?_, (s.value_endpointsOf_sound parse cluster service).symm⟩
  · exact (s.value_endpointsOf_eq_product parse cluster service).trans (if_neg (mt s.isIp_iff.mp h))
  · have hs := s.isIp_iff.mpr h
    exact ⟨⟨s.placed parse cluster service, (s.map_snd_placed parse cluster service hs).symm,
      s.pairwise_placed parse cluster service, fun _ _ => s.mem_placed parse cluster service⟩,
      s.length_endpointsOf parse cluster service hs⟩

/-- Two readable addresses of three, in the one endpoint that counts as ready, and two ports in range of
five make four endpoints, the first address with both ports before the other; a slice of host names has
none. -/
theorem endpointsOf_mixed_slice :
    let port (n : Option Int32) : SlicePort := ⟨none, none, n, none⟩
    let slice (addressType : String) : EndpointSlice :=
      { addressType
        endpoints := [⟨["10.0.0.1", "node", "::1"], none, none, none, none, none⟩,
          ⟨["10.0.0.2"], some ⟨some false, none, none⟩, none, none, none, none⟩]
        metadata := {}
        ports := some [port (some 80), port (some 65536), port (some (-1)), port none, port (some 443)] }
    let built (addressType : String) : List Endpoint :=
      ((slice addressType).endpointsOf IpAddress.parse? ⟨"c1"⟩ ⟨"ns", "svc"⟩).value
    "FQDN" ∉ ["IPv4", "IPv6"] ∧ built "FQDN" = [] ∧ "IPv6" ∈ ["IPv4", "IPv6"] ∧
      (built "IPv6").length = 4 ∧
      ∃ placed : List ((Nat × Nat × Nat) × Endpoint), built "IPv6" = placed.map Prod.snd ∧
        placed.map Prod.fst = [(0, 0, 0), (0, 0, 4), (0, 2, 0), (0, 2, 4)] := by
  intro port slice built
  have hhost : (slice "FQDN").addressType ∉ ["IPv4", "IPv6"] := by decide
  have haddress : (slice "IPv6").addressType ∈ ["IPv4", "IPv6"] := by decide
  obtain ⟨hnone, -, -⟩ := endpointsOf_exact IpAddress.parse? ⟨"c1"⟩ ⟨"ns", "svc"⟩ (slice "FQDN")
  obtain ⟨-, hsome, -⟩ := endpointsOf_exact IpAddress.parse? ⟨"c1"⟩ ⟨"ns", "svc"⟩ (slice "IPv6")
  obtain ⟨-, hlength⟩ := hsome haddress
  refine ⟨hhost, hnone hhost, haddress, hlength.trans (by decide +kernel), ?_⟩
  exact ⟨(slice "IPv6").placed IpAddress.parse? ⟨"c1"⟩ ⟨"ns", "svc"⟩, rfl, by decide +kernel⟩

end EndpointSlice
end MeshExport
