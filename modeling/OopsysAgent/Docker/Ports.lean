import Mathlib.Data.List.Sort
import Mathlib.Data.String.Basic
import OopsysAgent.Library.Text

/-!
# Published ports
-/

namespace OopsysAgent.Docker

/-- One element of a binding list; a field that is missing or null is `none`. -/
structure Binding where
  hostIp : Option String := none
  hostPort : Option String := none
  deriving DecidableEq

/-- The `Ports` map of a container, in the order in which it enumerates its keys. -/
structure Ports where
  entries : List (String × Option (List Binding)) := []
  distinct : (entries.map Prod.fst).Nodup := by decide

namespace Ports

def keys (raw : Ports) : List String := raw.entries.map Prod.fst

def sorted (raw : Ports) : List String := raw.keys.insertionSort (· ≤ ·)

/-- `raw[container_port]`, where null and the empty list are both falsy. -/
def bindings (raw : Ports) (containerPort : String) : List Binding :=
  (raw.entries.lookup containerPort).join.getD []

end Ports

def bindingLine (containerPort : String) (binding : Binding) : Option String :=
  let hostPort := binding.hostPort.getD ""
  if hostPort = "" then none
  else
    let hostIp := binding.hostIp.getD ""
    if hostIp ≠ "" ∧ hostIp ∉ ["0.0.0.0", "::", ""] then
      some (hostIp ++ ":" ++ hostPort ++ "→" ++ containerPort)
    else some (hostPort ++ "→" ++ containerPort)

def formatPorts (raw : Ports) : List String :=
  raw.sorted.flatMap fun containerPort =>
    match raw.bindings containerPort with
    | [] => [containerPort]
    | bindings => bindings.filterMap (bindingLine containerPort)

/-! ## What a line says -/

inductive Published
  | exposed (containerPort : String)
  -- no host means any address
  | bound (host : Option String) (hostPort containerPort : String)
  deriving DecidableEq

def Binding.isPublished (binding : Binding) : Bool := binding.hostPort.getD "" ≠ ""

def Binding.host (binding : Binding) : Option String :=
  let hostIp := binding.hostIp.getD ""
  if hostIp ∈ ["", "0.0.0.0", "::"] then none else some hostIp

def Binding.published (containerPort : String) (binding : Binding) : Published :=
  .bound binding.host (binding.hostPort.getD "") containerPort

def publishedAt (containerPort : String) (bindings : List Binding) : List Published :=
  if bindings = [] then [.exposed containerPort]
  else (bindings.filter Binding.isPublished).map (Binding.published containerPort)

def Ports.published (raw : Ports) : List Published :=
  raw.sorted.flatMap fun containerPort => publishedAt containerPort (raw.bindings containerPort)

def Published.containerPort : Published → String
  | .exposed containerPort | .bound _ _ containerPort => containerPort

def Published.text : Published → String
  | .exposed containerPort => containerPort
  | .bound none hostPort containerPort => hostPort ++ "→" ++ containerPort
  | .bound (some host) hostPort containerPort => host ++ ":" ++ hostPort ++ "→" ++ containerPort

def parseLine (line : String) : Option Published :=
  match line.toList.splitOn '→' with
  | [containerPort] => some (.exposed (String.ofList containerPort))
  | [left, containerPort] =>
      match Text.splitLast ':' left with
      | none => some (.bound none (String.ofList left) (String.ofList containerPort))
      | some (host, hostPort) =>
          some (.bound (some (String.ofList host)) (String.ofList hostPort)
            (String.ofList containerPort))
  | _ => none

theorem bindingLine_eq (containerPort : String) (binding : Binding) :
    bindingLine containerPort binding =
      if binding.isPublished then some (binding.published containerPort).text else none := by
  have specific : binding.hostIp.getD "" ≠ "" ∧ binding.hostIp.getD "" ∉ ["0.0.0.0", "::", ""] ↔
      binding.hostIp.getD "" ∉ ["", "0.0.0.0", "::"] := by
    simp only [List.mem_cons, List.not_mem_nil, or_false]
    tauto
  by_cases unpublished : binding.hostPort.getD "" = ""
  · simp [bindingLine, Binding.isPublished, unpublished]
  · have isPublished : binding.isPublished = true := by simp [Binding.isPublished, unpublished]
    rw [bindingLine, if_neg unpublished, if_pos isPublished, Binding.published, Binding.host]
    by_cases any : binding.hostIp.getD "" ∈ ["", "0.0.0.0", "::"]
    · rw [if_neg (by rwa [specific, not_not]), if_pos any]
      rfl
    · rw [if_pos (specific.mpr any), if_neg any]
      rfl

theorem filterMap_bindingLine (containerPort : String) (bindings : List Binding) :
    bindings.filterMap (bindingLine containerPort) =
      ((bindings.filter Binding.isPublished).map (Binding.published containerPort)).map
        Published.text := by
  induction bindings with
  | nil => rfl
  | cons binding bindings ih =>
      rw [List.filterMap_cons, bindingLine_eq, ih]
      by_cases isPublished : binding.isPublished = true
      · simp [isPublished]
      · simp [isPublished]

theorem formatPorts_eq (raw : Ports) : formatPorts raw = raw.published.map Published.text := by
  rw [Ports.published, List.map_flatMap]
  apply List.flatMap_congr
  intro containerPort _
  cases given : raw.bindings containerPort with
  | nil => rfl
  | cons binding bindings =>
      rw [publishedAt, if_neg (List.cons_ne_nil binding bindings)]
      exact filterMap_bindingLine containerPort (binding :: bindings)

/-! ## Reading the lines back -/

/-- The strings of what is published hold no separator that would be taken for another. -/
def Published.Plain : Published → Prop
  | .exposed containerPort => '→' ∉ containerPort.toList
  | .bound host hostPort containerPort =>
      (∀ address ∈ host, '→' ∉ address.toList) ∧ '→' ∉ hostPort.toList ∧
        ':' ∉ hostPort.toList ∧ '→' ∉ containerPort.toList

structure Ports.Plain (raw : Ports) : Prop where
  key : ∀ containerPort ∈ raw.keys, '→' ∉ containerPort.toList ∧ ':' ∉ containerPort.toList
  hostPort : ∀ containerPort ∈ raw.keys, ∀ binding ∈ raw.bindings containerPort,
    '→' ∉ (binding.hostPort.getD "").toList ∧ ':' ∉ (binding.hostPort.getD "").toList
  hostIp : ∀ containerPort ∈ raw.keys, ∀ binding ∈ raw.bindings containerPort,
    '→' ∉ (binding.hostIp.getD "").toList

theorem toList_arrow (left containerPort : String) :
    (left ++ "→" ++ containerPort).toList = left.toList ++ '→' :: containerPort.toList := by
  simp

theorem splitOn_arrow {left containerPort : List Char} (plain : '→' ∉ left)
    (plain' : '→' ∉ containerPort) :
    (left ++ '→' :: containerPort).splitOn '→' = [left, containerPort] := by
  rw [List.splitOn_append_cons_self_of_not_mem plain, List.splitOn_eq_singleton plain']

theorem parseLine_text {published : Published} (plain : published.Plain) :
    parseLine published.text = some published := by
  cases published with
  | exposed containerPort =>
      have whole : containerPort.toList.splitOn '→' = [containerPort.toList] :=
        List.splitOn_eq_singleton plain
      simp [parseLine, Published.text, whole]
  | bound host hostPort containerPort =>
      obtain ⟨plainHost, plainPort, noColon, plainKey⟩ := plain
      cases host with
      | none =>
          rw [Published.text, parseLine, toList_arrow, splitOn_arrow plainPort plainKey]
          simp [Text.splitLast_eq_none noColon]
      | some host =>
          have left : (host ++ ":" ++ hostPort).toList = host.toList ++ ':' :: hostPort.toList := by
            simp
          have plainLeft : '→' ∉ (host ++ ":" ++ hostPort).toList := by
            have plainHost := plainHost host rfl
            simp [plainHost, plainPort]
          rw [Published.text, parseLine, toList_arrow, splitOn_arrow plainLeft plainKey, left]
          simp [Text.splitLast_append noColon]

theorem Ports.mem_sorted {raw : Ports} {containerPort : String} :
    containerPort ∈ raw.sorted ↔ containerPort ∈ raw.keys :=
  (List.perm_insertionSort _ raw.keys).mem_iff

theorem Ports.Plain.published {raw : Ports} (plain : raw.Plain) :
    ∀ published ∈ raw.published, published.Plain := by
  intro published member
  obtain ⟨containerPort, given, member⟩ := List.mem_flatMap.mp member
  rw [Ports.mem_sorted] at given
  have key := (plain.key containerPort given).1
  unfold publishedAt at member
  split at member
  · obtain rfl := List.mem_singleton.mp member
    exact key
  · obtain ⟨binding, bound, rfl⟩ := List.mem_map.mp member
    have bound := List.mem_of_mem_filter bound
    have hostPort := plain.hostPort containerPort given binding bound
    refine ⟨?_, hostPort.1, hostPort.2, key⟩
    intro address specific
    simp only [Binding.host] at specific
    split at specific
    · cases specific
    · obtain rfl := Option.some.inj specific
      exact plain.hostIp containerPort given binding bound

theorem lookup_eq_some_of_nodup {entries : List (String × Option (List Binding))}
    (distinct : (entries.map Prod.fst).Nodup) (containerPort : String)
    (bindings : Option (List Binding)) :
    entries.lookup containerPort = some bindings ↔ (containerPort, bindings) ∈ entries := by
  induction entries with
  | nil => simp
  | cons entry entries ih =>
      obtain ⟨key, value⟩ := entry
      rw [List.map_cons, List.nodup_cons] at distinct
      by_cases same : containerPort = key
      · subst same
        have fresh : (containerPort, bindings) ∉ entries := fun member =>
          distinct.1 (List.mem_map.mpr ⟨_, member, rfl⟩)
        simp [fresh, eq_comm]
      · have differs : (containerPort == key) = false := beq_eq_false_iff_ne.mpr same
        rw [List.lookup_cons, differs, ih distinct.2]
        simp [same]

namespace Ports

variable {raw raw' : Ports}

theorem sorted_pairwise (raw : Ports) : raw.sorted.Pairwise (· ≤ ·) :=
  List.pairwise_insertionSort _ raw.keys

theorem sorted_congr (same : raw'.entries.Perm raw.entries) : raw'.sorted = raw.sorted := by
  have keys : raw'.sorted.Perm raw.sorted :=
    ((List.perm_insertionSort _ raw'.keys).trans (same.map Prod.fst)).trans
      (List.perm_insertionSort _ raw.keys).symm
  exact keys.eq_of_pairwise (fun _ _ _ _ => le_antisymm) raw'.sorted_pairwise raw.sorted_pairwise

theorem bindings_congr (same : raw'.entries.Perm raw.entries) (containerPort : String) :
    raw'.bindings containerPort = raw.bindings containerPort := by
  have found : raw'.entries.lookup containerPort = raw.entries.lookup containerPort := by
    apply Option.ext
    intro bindings
    rw [lookup_eq_some_of_nodup raw'.distinct, lookup_eq_some_of_nodup raw.distinct, same.mem_iff]
  rw [bindings, bindings, found]

theorem formatPorts_congr (same : raw'.entries.Perm raw.entries) :
    formatPorts raw' = formatPorts raw := by
  rw [formatPorts, formatPorts, sorted_congr same]
  exact List.flatMap_congr fun containerPort _ => by rw [bindings_congr same]

end Ports

/-- The lines read back, in order, as what is published and nothing else, and the order of the map
does not show in them. -/
theorem formatPorts_read_back (raw : Ports) (plain : raw.Plain) :
    (formatPorts raw).map parseLine =
        (raw.sorted.flatMap fun containerPort =>
          publishedAt containerPort (raw.bindings containerPort)).map some ∧
      raw.sorted.Pairwise (· ≤ ·) ∧ raw.sorted.Perm raw.keys ∧
      ∀ raw' : Ports, raw'.entries.Perm raw.entries → formatPorts raw' = formatPorts raw := by
  refine ⟨?_, raw.sorted_pairwise, List.perm_insertionSort _ raw.keys,
    fun raw' same => Ports.formatPorts_congr same⟩
  rw [formatPorts_eq, List.map_map]
  exact List.map_congr_left fun published member =>
    parseLine_text (plain.published published member)

/-- An IPv6 address, an address that is dropped, a port without bindings, one that is skipped. -/
def mixedPorts : Ports where
  entries :=
    [("90/udp", none),
      ("80/tcp", some [{ hostIp := some "fe80::1", hostPort := some "8080" },
        { hostIp := some "0.0.0.0", hostPort := some "80" }, { hostPort := some "" }])]

theorem formatPorts_read_back_mixedPorts :
    formatPorts mixedPorts = ["fe80::1:8080→80/tcp", "80→80/tcp", "90/udp"] ∧
    (formatPorts mixedPorts).map parseLine =
      [some (.bound (some "fe80::1") "8080" "80/tcp"), some (.bound none "80" "80/tcp"),
        some (.exposed "90/udp")] := by
  refine ⟨by decide, ?_⟩
  have plain : mixedPorts.Plain := ⟨by decide, by decide, by decide⟩
  exact (formatPorts_read_back mixedPorts plain).1.trans (by decide)

/-! ## Repeated lines -/

/-- Two bindings of one host port on any address, such as an IPv4 and an IPv6 one. -/
def DualStack (binding binding' : Binding) : Prop :=
  binding.isPublished = true ∧ binding.hostPort = binding'.hostPort ∧ binding.host = none ∧
    binding'.host = none

instance (binding binding' : Binding) : Decidable (DualStack binding binding') :=
  inferInstanceAs (Decidable (_ ∧ _ ∧ _ ∧ _))

/-- What stands in front of the arrow. -/
def Published.left : Option String → String → String
  | none, hostPort => hostPort
  | some host, hostPort => host ++ ":" ++ hostPort

/-- A separator inside a string is taken for one between two. -/
inductive Published.Clashes : Published → Published → Prop
  -- a port that is only exposed, with an arrow in its name
  | exposed (host : Option String) (hostPort containerPort : String) :
      Clashes (.exposed (left host hostPort ++ "→" ++ containerPort))
        (.bound host hostPort containerPort)
  -- an arrow in the name of the one port, and one in the host or the host port of the other
  | arrow {host host' : Option String} {hostPort hostPort' middle containerPort : String}
      (same : left host' hostPort' = left host hostPort ++ "→" ++ middle) :
      Clashes (.bound host hostPort (middle ++ "→" ++ containerPort))
        (.bound host' hostPort' containerPort)
  -- a colon in the one host port
  | colon (host hostPort containerPort : String) :
      Clashes (.bound none (host ++ ":" ++ hostPort) containerPort)
        (.bound (some host) hostPort containerPort)
  | colons (host middle hostPort containerPort : String) :
      Clashes (.bound (some host) (middle ++ ":" ++ hostPort) containerPort)
        (.bound (some (host ++ ":" ++ middle)) hostPort containerPort)

theorem Published.text_bound (host : Option String) (hostPort containerPort : String) :
    (bound host hostPort containerPort).text = left host hostPort ++ "→" ++ containerPort := by
  cases host <;> rfl

theorem Published.Clashes.text {published published' : Published}
    (clashes : published.Clashes published') : published.text = published'.text := by
  cases clashes with
  | exposed host hostPort containerPort => exact (text_bound ..).symm
  | arrow same => simp [text_bound, same, String.append_assoc]
  | colon host hostPort containerPort => rfl
  | colons host middle hostPort containerPort => simp [Published.text, String.append_assoc]

theorem Published.Clashes.ne {published published' : Published}
    (clashes : published.Clashes published') : published ≠ published' := by
  have longer (x y : String) : x ++ "→" ++ y ≠ y := by
    intro same
    have length := congrArg String.length same
    simp at length
  cases clashes with
  | exposed host hostPort containerPort => nofun
  | arrow same =>
      intro equal
      exact longer _ _ (Published.bound.inj equal).2.2
  | colon host hostPort containerPort => nofun
  | colons host middle hostPort containerPort =>
      intro equal
      have length := congrArg String.length (Option.some.inj (Published.bound.inj equal).1)
      have colon : ":".length = 1 := rfl
      simp [colon] at length
      omega

theorem Published.eq_or_clashes_of_left {host host' : Option String} {hostPort hostPort' : String}
    (same : left host hostPort = left host' hostPort') (containerPort : String) :
    bound host hostPort containerPort = bound host' hostPort' containerPort ∨
      Clashes (.bound host hostPort containerPort) (.bound host' hostPort' containerPort) ∨
        Clashes (.bound host' hostPort' containerPort) (.bound host hostPort containerPort) := by
  cases host with
  | none =>
      cases host' with
      | none =>
          obtain rfl : hostPort = hostPort' := same
          exact .inl rfl
      | some host' =>
          obtain rfl : hostPort = host' ++ ":" ++ hostPort' := same
          exact .inr (.inl (.colon ..))
  | some host =>
      cases host' with
      | none =>
          obtain rfl : host ++ ":" ++ hostPort = hostPort' := same
          exact .inr (.inr (.colon ..))
      | some host' =>
          have same : host ++ ":" ++ hostPort = host' ++ ":" ++ hostPort' := same
          have single : ":".toList = [':'] := rfl
          rcases (Text.join_eq_join_iff single).mp same with ⟨rfl, rfl⟩ | ⟨m, rfl, rfl⟩ | ⟨m, rfl, rfl⟩
          · exact .inl rfl
          · exact .inr (.inl (.colons ..))
          · exact .inr (.inr (.colons ..))

/-- Two are written alike when they are the same or clash. -/
theorem Published.text_eq_iff {published published' : Published} :
    published.text = published'.text ↔ published = published' ∨ published.Clashes published' ∨
      published'.Clashes published := by
  constructor
  · intro same
    cases published with
    | exposed containerPort =>
        cases published' with
        | exposed containerPort' =>
            obtain rfl : containerPort = containerPort' := same
            exact .inl rfl
        | bound host' hostPort' containerPort' =>
            rw [text_bound] at same
            obtain rfl : containerPort = left host' hostPort' ++ "→" ++ containerPort' := same
            exact .inr (.inl (.exposed ..))
    | bound host hostPort containerPort =>
        rw [text_bound] at same
        cases published' with
        | exposed containerPort' =>
            obtain rfl : left host hostPort ++ "→" ++ containerPort = containerPort' := same
            exact .inr (.inr (.exposed ..))
        | bound host' hostPort' containerPort' =>
            rw [text_bound] at same
            have single : "→".toList = ['→'] := rfl
            rcases (Text.join_eq_join_iff single).mp same with ⟨before, rfl⟩ | ⟨m, before, rfl⟩ |
              ⟨m, before, rfl⟩
            · exact eq_or_clashes_of_left before containerPort
            · exact .inr (.inl (.arrow before))
            · exact .inr (.inr (.arrow before))
  · rintro (rfl | clashes | clashes)
    · rfl
    · exact clashes.text
    · exact clashes.text.symm

/-- No two of what is published clash. -/
def Ports.Legible (raw : Ports) : Prop :=
  ∀ published ∈ raw.published, ∀ published' ∈ raw.published, ¬published.Clashes published'

theorem Ports.legible_iff {raw : Ports} : raw.Legible ↔
    ∀ published ∈ raw.published, ∀ published' ∈ raw.published,
      published.text = published'.text → published = published' := by
  constructor
  · intro legible published member published' member' same
    rcases Published.text_eq_iff.mp same with equal | clashes | clashes
    · exact equal
    · exact absurd clashes (legible published member published' member')
    · exact absurd clashes (legible published' member' published member)
  · intro apart published member published' member' clashes
    exact clashes.ne (apart published member published' member' clashes.text)

theorem Ports.Plain.legible {raw : Ports} (plain : raw.Plain) : raw.Legible := by
  intro published member published' member' clashes
  have parsed := parseLine_text (plain.published published member)
  rw [clashes.text, parseLine_text (plain.published published' member')] at parsed
  exact clashes.ne (Option.some.inj parsed).symm

theorem Binding.host_eq_some {binding : Binding} {address : String}
    (specific : binding.host = some address) : binding.hostIp = some address := by
  cases given : binding.hostIp with
  | none => simp [Binding.host, given] at specific
  | some hostIp =>
      simp only [Binding.host, given, Option.getD_some] at specific
      split at specific
      · cases specific
      · exact specific

theorem published_eq_iff {containerPort : String} {binding binding' : Binding}
    (other : binding ≠ binding') (isPublished : binding.isPublished = true)
    (isPublished' : binding'.isPublished = true) :
    binding.published containerPort = binding'.published containerPort ↔
      DualStack binding binding' := by
  obtain ⟨hostIp, hostPort⟩ := binding
  obtain ⟨hostIp', hostPort'⟩ := binding'
  cases hostPort with
  | none => simp [Binding.isPublished] at isPublished
  | some hostPort =>
      cases hostPort' with
      | none => simp [Binding.isPublished] at isPublished'
      | some hostPort' =>
          simp only [Binding.published, DualStack, isPublished, true_and, Option.getD_some,
            Published.bound.injEq, Option.some.injEq, and_true]
          constructor
          · rintro ⟨same, rfl⟩
            cases host : Binding.host { hostIp := hostIp, hostPort := some hostPort } with
            | none => exact ⟨rfl, rfl, by rw [← same, host]⟩
            | some address =>
                have given : hostIp = some address := Binding.host_eq_some host
                have given' : hostIp' = some address := Binding.host_eq_some (same ▸ host)
                exact absurd (by rw [given, given']) other
          · rintro ⟨rfl, any, any'⟩
            exact ⟨any.trans any'.symm, rfl⟩

theorem publishedAt_nodup {containerPort : String} {bindings : List Binding}
    (distinct : bindings.Nodup) :
    (publishedAt containerPort bindings).Nodup ↔
      bindings.Pairwise fun binding binding' => ¬DualStack binding binding' := by
  unfold publishedAt
  split
  · rename_i empty
    subst empty
    simp
  · rw [List.Nodup, List.pairwise_map, List.pairwise_filter]
    constructor
    · intro apart
      refine (List.Pairwise.and distinct apart).imp ?_
      rintro binding binding' ⟨other, apart⟩ dual
      have isPublished' : binding'.isPublished = true := by
        rw [Binding.isPublished, ← dual.2.1]
        exact dual.1
      exact apart dual.1 isPublished' ((published_eq_iff other dual.1 isPublished').mpr dual)
    · intro single
      refine (List.Pairwise.and distinct single).imp ?_
      rintro binding binding' ⟨other, single⟩ isPublished isPublished' same
      exact single ((published_eq_iff other isPublished isPublished').mp same)

theorem publishedAt_containerPort {containerPort : String} {bindings : List Binding}
    {published : Published} (member : published ∈ publishedAt containerPort bindings) :
    published.containerPort = containerPort := by
  unfold publishedAt at member
  split at member
  · obtain rfl := List.mem_singleton.mp member
    rfl
  · obtain ⟨binding, -, rfl⟩ := List.mem_map.mp member
    rfl

theorem Ports.published_nodup {raw : Ports}
    (distinct : ∀ containerPort ∈ raw.keys, (raw.bindings containerPort).Nodup) :
    raw.published.Nodup ↔ ∀ containerPort ∈ raw.keys, (raw.bindings containerPort).Pairwise
      fun binding binding' => ¬DualStack binding binding' := by
  have keys : raw.sorted.Nodup := (List.perm_insertionSort _ raw.keys).nodup_iff.mpr raw.distinct
  have apart : raw.sorted.Pairwise (Function.onFun List.Disjoint fun containerPort =>
      publishedAt containerPort (raw.bindings containerPort)) := by
    refine keys.imp fun other published member member' => other ?_
    exact (publishedAt_containerPort member).symm.trans (publishedAt_containerPort member')
  rw [Ports.published, List.nodup_flatMap]
  constructor
  · rintro ⟨nodup, -⟩ containerPort given
    exact (publishedAt_nodup (distinct containerPort given)).mp
      (nodup containerPort (Ports.mem_sorted.mpr given))
  · intro single
    refine ⟨?_, apart⟩
    intro containerPort member
    have given := Ports.mem_sorted.mp member
    exact (publishedAt_nodup (distinct containerPort given)).mpr (single containerPort given)

/-- No line is repeated, exactly if no binding list publishes one host port twice on any address
and no two of what is published clash, which takes a separator inside one of the strings. -/
theorem formatPorts_nodup (raw : Ports)
    (distinct : ∀ containerPort ∈ raw.keys, (raw.bindings containerPort).Nodup) :
    ((formatPorts raw).Nodup ↔
      (∀ containerPort ∈ raw.keys, (raw.bindings containerPort).Pairwise
        fun binding binding' => ¬DualStack binding binding') ∧ raw.Legible) ∧
    (raw.Plain → raw.Legible) := by
  refine ⟨?_, Ports.Plain.legible⟩
  rw [formatPorts_eq, ← Ports.published_nodup distinct, Ports.legible_iff]
  constructor
  · intro nodup
    exact ⟨nodup.of_map _, List.inj_on_of_nodup_map nodup⟩
  · rintro ⟨nodup, legible⟩
    exact (List.nodup_map_iff_inj_on nodup).mpr legible

theorem formatPorts_nodup_mixedPorts : (formatPorts mixedPorts).Nodup := by
  have plain : mixedPorts.Plain := ⟨by decide, by decide, by decide⟩
  have lines := formatPorts_nodup mixedPorts (by decide)
  exact lines.1.mpr ⟨by decide, lines.2 plain⟩

def dualStackPorts : Ports where
  entries :=
    [("80/tcp", some [{ hostIp := some "0.0.0.0", hostPort := some "8080" },
      { hostIp := some "::", hostPort := some "8080" }])]

theorem dualStackPorts_repeats :
    (∀ containerPort ∈ dualStackPorts.keys, (dualStackPorts.bindings containerPort).Nodup) ∧
      formatPorts dualStackPorts = ["8080→80/tcp", "8080→80/tcp"] ∧
      ¬(formatPorts dualStackPorts).Nodup :=
  ⟨by decide, by decide, by decide⟩

end OopsysAgent.Docker
