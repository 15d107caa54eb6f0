import DaemonDialogue.Node.Target
import DaemonDialogue.Proofs.Endpoint.RoundTrip

/-!
# Targets and endpoints

A test waits for an endpoint before a client attaches to a target, and both are read from a text.
Where both can be read they mean the same place, but for three kinds of texts: a host and a port
without a scheme, which is a path to the client; an address that goes on with a query or a
fragment; and a bracketed host without a port right behind it.
-/

namespace DaemonDialogue.Node.Target

variable {text rest : List Char} {endpoint : Endpoint} {target : Target}

/-- What a client connects to, of the text behind a scheme. -/
def addressOf (rest : List Char) : List Char := rest.takeWhile (· != '/')

/-- Do a target and an endpoint mean the same place? An address is that of a host, alone or in
brackets, with a numeral of its port. -/
def Means : Target → Endpoint → Prop
  | .ipc path, .ipc other => path = other
  | .tcp _ address, .tcp host port => ∃ numeral,
    Numeral.read Numeral.maxU16 (String.ofList numeral) = .ok port ∧
      (address.toList = host.toList ++ ':' :: numeral ∨
        address.toList = '[' :: (host.toList ++ ']' :: ':' :: numeral))
  | _, _ => False

/-- The texts that are read apart. -/
inductive Apart (text : List Char) : Prop
  | noScheme (hipc : ¬"ipc:".toList <+: text)
    (hscheme : ∀ s ∈ Endpoint.schemes, ¬s.1.toList <+: text)
    (hpath : Endpoint.looksLikePath text = false)
  | query {scheme : String} {transport : Transport} {rest : List Char}
    (hscheme : (scheme, transport) ∈ schemes) (htext : text = scheme.toList ++ rest)
    (hmark : '?' ∈ addressOf rest ∨ '#' ∈ addressOf rest)
  | bracketed {scheme : String} {transport : Transport} {rest host behind : List Char}
    (hscheme : (scheme, transport) ∈ schemes) (htext : text = scheme.toList ++ rest)
    (haddress : addressOf rest = '[' :: (host ++ ']' :: behind)) (hclose : ']' ∉ host)
    (hcolon : behind.head? ≠ some ':')

/-! ## Addresses -/

theorem authority_eq (rest : List Char) :
    Endpoint.authority rest = (addressOf rest).takeWhile fun c => c != '?' && c != '#' := by
  rw [addressOf, List.takeWhile_takeWhile, Endpoint.authority]
  congr 1
  funext c
  rw [Bool.eq_iff_iff]
  simp only [Bool.and_eq_true, bne_iff_ne, decide_eq_true_eq]
  tauto

theorem authority_eq_addressOf (h : ¬('?' ∈ addressOf rest ∨ '#' ∈ addressOf rest)) :
    Endpoint.authority rest = addressOf rest := by
  obtain ⟨hquery, hfragment⟩ := not_or.1 h
  rw [authority_eq, List.takeWhile_eq_self_iff]
  intro c hc
  have hne : c ≠ '?' ∧ c ≠ '#' := ⟨ne_of_mem_of_not_mem hc hquery, ne_of_mem_of_not_mem hc hfragment⟩
  simpa using hne

theorem notMem_authority (rest : List Char) :
    '?' ∉ Endpoint.authority rest ∧ '#' ∉ Endpoint.authority rest := by
  rw [authority_eq]
  constructor
  · intro hmem
    simpa using List.mem_takeWhile_imp hmem
  · intro hmem
    simpa using List.mem_takeWhile_imp hmem

theorem subset_of_written {authority host : List Char} {numeral? : Option (List Char)}
    (h : Endpoint.Written authority host numeral?) : host ⊆ authority := by
  cases h with
  | plain => exact List.Subset.refl _
  | plainPort => exact List.subset_append_left _ _
  | bracketed => exact List.subset_cons_of_subset _ (List.subset_append_left _ _)
  | bracketedPort => exact List.subset_cons_of_subset _ (List.subset_append_left _ _)

theorem written_unique {authority host other : List Char} {numeral? other? : Option (List Char)}
    (h : Endpoint.Written authority host numeral?) (hother : Endpoint.Written authority other other?) :
    host = other ∧ numeral? = other? := by
  have hparts := Endpoint.hostAndPort?_eq_some_iff.2 h
  rw [Endpoint.hostAndPort?_eq_some_iff.2 hother] at hparts
  simpa [eq_comm] using hparts

theorem bracketed_ne_plain (host behind numeral : List Char) :
    '[' :: (host ++ ']' :: behind) ≠ host ++ ':' :: numeral := by
  induction host with
  | nil => simp
  | cons c host ih =>
    intro h
    rw [List.cons_append, List.cons_append, List.cons.injEq] at h
    obtain ⟨rfl, h⟩ := h
    exact ih h

theorem notMem_address {address host numeral : List Char} {port : Nat} {c : Char}
    (hread : Numeral.read Numeral.maxU16 (String.ofList numeral) = .ok port)
    (haddress : address = host ++ ':' :: numeral ∨
      address = '[' :: (host ++ ']' :: ':' :: numeral))
    (hhost : c ∉ host) (hplain : Ascii.isDigit c = false ∧ c ∉ ['+', ':', '[', ']']) :
    c ∉ address := by
  obtain ⟨hdigit, hmark⟩ := hplain
  have hnumeral : c ∉ numeral := by
    intro hmem
    rcases Numeral.isDigit_of_read hread c (by simpa using hmem) with rfl | hc
    · simp at hmark
    · rw [hdigit] at hc
      cases hc
  rcases haddress with rfl | rfl
  · simp_all
  · simp_all

/-! ## Texts with a scheme -/

theorem eq_of_mem_schemes {scheme : String} {transport : Transport}
    (h : (scheme, transport) ∈ schemes) :
    scheme = "http://" ∧ transport = .http ∨ scheme = "ws://" ∧ transport = .ws := by
  simpa [schemes] using h

theorem readTrimmed_scheme {scheme : String} {transport : Transport}
    (h : (scheme, transport) ∈ schemes) (rest : List Char) :
    readTrimmed (scheme.toList ++ rest) =
      if (addressOf rest).contains ':' then .ok (.tcp transport (String.ofList (addressOf rest)))
      else .error (.targetWithoutPort (String.ofList (scheme.toList ++ rest))) := by
  rcases eq_of_mem_schemes h with ⟨rfl, rfl⟩ | ⟨rfl, rfl⟩
  · rfl
  · rfl

theorem exists_default {scheme : String} {transport : Transport} (h : (scheme, transport) ∈ schemes) :
    ∃ port, (scheme, port) ∈ Endpoint.schemes := by
  rcases eq_of_mem_schemes h with ⟨rfl, rfl⟩ | ⟨rfl, rfl⟩
  · exact ⟨80, by decide⟩
  · exact ⟨80, by decide⟩

theorem scheme_cases {scheme : String} {port : Nat} (h : (scheme, port) ∈ Endpoint.schemes) :
    (∃ transport, (scheme, transport) ∈ schemes) ∨
      ∀ rest, readTrimmed (scheme.toList ++ rest) =
        .error (.unsupportedTarget (String.ofList (scheme.toList ++ rest))) := by
  simp only [Endpoint.schemes, List.mem_cons, Prod.mk.injEq, List.not_mem_nil, or_false] at h
  rcases h with ⟨rfl, -⟩ | ⟨rfl, -⟩ | ⟨rfl, -⟩ | ⟨rfl, -⟩
  · exact .inl ⟨.http, by decide⟩
  · exact .inr fun rest => by simp [readTrimmed, schemeOf?, schemes, Cut.behind?, occursIn]
  · exact .inl ⟨.ws, by decide⟩
  · exact .inr fun rest => by simp [readTrimmed, schemeOf?, schemes, Cut.behind?, occursIn]

theorem scheme_unique {scheme other : String} {transport transport' : Transport}
    {rest rest' : List Char} (h : (scheme, transport) ∈ schemes)
    (hother : (other, transport') ∈ schemes)
    (htext : scheme.toList ++ rest = other.toList ++ rest') : rest = rest' := by
  rcases eq_of_mem_schemes h with ⟨rfl, rfl⟩ | ⟨rfl, rfl⟩ <;>
    rcases eq_of_mem_schemes hother with ⟨rfl, rfl⟩ | ⟨rfl, rfl⟩
  · exact List.append_cancel_left htext
  · simp at htext
  · simp at htext
  · exact List.append_cancel_left htext

theorem not_ipc_scheme {scheme : String} {transport : Transport}
    (h : (scheme, transport) ∈ schemes) (rest path : List Char) :
    scheme.toList ++ rest ≠ "ipc:".toList ++ path := by
  rcases eq_of_mem_schemes h with ⟨rfl, rfl⟩ | ⟨rfl, rfl⟩
  · simp
  · simp

theorem apart_scheme_iff {scheme : String} {transport : Transport}
    (hscheme : (scheme, transport) ∈ schemes) (rest : List Char) :
    Apart (scheme.toList ++ rest) ↔ ('?' ∈ addressOf rest ∨ '#' ∈ addressOf rest) ∨
      ∃ host behind, addressOf rest = '[' :: (host ++ ']' :: behind) ∧ ']' ∉ host ∧
        behind.head? ≠ some ':' := by
  constructor
  · intro h
    cases h with
    | noScheme _ hnone _ =>
      obtain ⟨port, hport⟩ := exists_default hscheme
      exact absurd (List.prefix_append _ _) (hnone _ hport)
    | query hother htext hmark =>
      obtain rfl := scheme_unique hscheme hother htext
      exact .inl hmark
    | @bracketed _ _ _ host behind hother htext haddress hclose hcolon =>
      obtain rfl := scheme_unique hscheme hother htext
      exact .inr ⟨host, behind, haddress, hclose, hcolon⟩
  · rintro (hmark | ⟨host, behind, haddress, hclose, hcolon⟩)
    · exact .query hscheme rfl hmark
    · exact .bracketed hscheme rfl haddress hclose hcolon

/-- Of one text with a scheme, the address and the endpoint mean the same place unless the text is
read apart. -/
theorem means_scheme_iff {scheme : String} {transport : Transport}
    (hscheme : (scheme, transport) ∈ schemes)
    (h : Endpoint.readTrimmed (scheme.toList ++ rest) = .ok endpoint)
    (htarget : readTrimmed (scheme.toList ++ rest) = .ok target) :
    Means target endpoint ↔ ¬Apart (scheme.toList ++ rest) := by
  obtain ⟨default, hdefault⟩ := exists_default hscheme
  rw [Endpoint.readTrimmed_scheme hdefault] at h
  obtain ⟨host, numeral?, port, hwritten, -, hport, rfl⟩ := Endpoint.exists_written h
  rw [readTrimmed_scheme hscheme] at htarget
  split_ifs at htarget with hcolon
  obtain rfl := Except.ok.inj htarget
  rw [apart_scheme_iff hscheme]
  simp only [Means, String.toList_ofList]
  constructor
  · rintro ⟨numeral, hread, haddress⟩
    have hmarks : ¬('?' ∈ addressOf rest ∨ '#' ∈ addressOf rest) := by
      have hhost := subset_of_written hwritten
      have hauthority := notMem_authority rest
      rintro (hmem | hmem)
      · exact notMem_address hread haddress (fun hc => hauthority.1 (hhost hc)) (by decide) hmem
      · exact notMem_address hread haddress (fun hc => hauthority.2 (hhost hc)) (by decide) hmem
    rintro (hmark | ⟨other, behind, hother, hclose, hbehind⟩)
    · exact hmarks hmark
    · rw [authority_eq_addressOf hmarks, hother] at hwritten
      obtain ⟨rfl, -⟩ := written_unique hwritten (.bracketed hclose hbehind)
      rw [hother] at haddress
      rcases haddress with hplain | hbracket
      · exact bracketed_ne_plain _ _ _ hplain
      · simp only [List.cons.injEq, true_and, List.append_cancel_left_eq] at hbracket
        rw [hbracket] at hbehind
        exact hbehind rfl
  · intro hapart
    obtain ⟨hmarks, hbracket⟩ := not_or.1 hapart
    rw [authority_eq_addressOf hmarks] at hwritten
    generalize addressOf rest = address at *
    cases hwritten with
    | plain _ hnone => exact absurd (by simpa using hcolon) hnone
    | @plainPort _ numeral _ _ =>
      exact ⟨numeral, Endpoint.portOf?_some_iff.1 hport, .inl rfl⟩
    | bracketed hclose hbehind => exact absurd ⟨_, _, rfl, hclose, hbehind⟩ hbracket
    | @bracketedPort _ numeral _ =>
      exact ⟨numeral, Endpoint.portOf?_some_iff.1 hport, .inr rfl⟩

/-! ## Texts without a scheme -/

theorem readTrimmed_path (path : List Char) :
    readTrimmed ("ipc:".toList ++ path) = .ok (.ipc (String.ofList path)) := rfl

theorem not_apart_path (path : List Char) : ¬Apart ("ipc:".toList ++ path) := by
  intro h
  cases h with
  | noScheme hipc => exact hipc (List.prefix_append _ _)
  | query hscheme htext => exact not_ipc_scheme hscheme _ _ htext.symm
  | bracketed hscheme htext => exact not_ipc_scheme hscheme _ _ htext.symm

theorem schemeOf?_eq_none (hscheme : ∀ s ∈ Endpoint.schemes, ¬s.1.toList <+: text) :
    schemeOf? text = none := by
  rw [schemeOf?, List.findSome?_eq_none_iff]
  rintro ⟨scheme, transport⟩ hmem
  obtain ⟨port, hport⟩ := exists_default hmem
  simpa using Cut.behind?_eq_none_iff.2 (hscheme _ hport)

theorem eq_of_readTrimmed (hipc : ¬"ipc:".toList <+: text)
    (hscheme : ∀ s ∈ Endpoint.schemes, ¬s.1.toList <+: text)
    (h : readTrimmed text = .ok target) : target = .ipc (String.ofList text) := by
  rw [readTrimmed, Cut.behind?_eq_none_iff.2 hipc, schemeOf?_eq_none hscheme] at h
  split_ifs at h
  exact (Except.ok.inj h).symm

/-- Of a text without a scheme, a target and an endpoint are the same path unless the endpoint is
none. -/
theorem means_noScheme_iff (hipc : ¬"ipc:".toList <+: text)
    (hscheme : ∀ s ∈ Endpoint.schemes, ¬s.1.toList <+: text)
    (h : Endpoint.readTrimmed text = .ok endpoint) (htarget : readTrimmed text = .ok target) :
    Means target endpoint ↔ ¬Apart text := by
  obtain rfl := eq_of_readTrimmed hipc hscheme htarget
  rw [Endpoint.readTrimmed_noScheme hipc hscheme] at h
  split_ifs at h with _ hpath
  · obtain rfl := Except.ok.inj h
    refine iff_of_true rfl ?_
    intro hapart
    cases hapart with
    | noScheme _ _ hnot =>
      rw [hpath] at hnot
      cases hnot
    | query hown htext =>
      obtain ⟨port, hport⟩ := exists_default hown
      exact hscheme _ hport ⟨_, htext.symm⟩
    | bracketed hown htext =>
      obtain ⟨port, hport⟩ := exists_default hown
      exact hscheme _ hport ⟨_, htext.symm⟩
  · obtain ⟨host, numeral?, port, -, -, -, rfl⟩ := Endpoint.exists_written h
    refine iff_of_false id ?_
    intro hnot
    exact hnot (.noScheme hipc hscheme (Bool.eq_false_of_not_eq_true hpath))

/-- The place of a text is the same for a test that waits and for a client that attaches, where
both can read it, just if the text is not one of those that are read apart. -/
theorem means_iff_not_apart {raw : String} {endpoint : Endpoint} {target : Target}
    (hendpoint : Endpoint.read raw = .ok endpoint) (htarget : read raw = .ok target) :
    Means target endpoint ↔ ¬Apart (Blank.trimChars raw.toList) := by
  rw [Endpoint.read] at hendpoint
  rw [read] at htarget
  generalize Blank.trimChars raw.toList = text at hendpoint htarget ⊢
  by_cases hipc : "ipc:".toList <+: text
  · obtain ⟨path, rfl⟩ := hipc
    rw [readTrimmed_path] at htarget
    obtain rfl := Except.ok.inj htarget
    refine iff_of_true ?_ (not_apart_path path)
    cases path with
    | nil => cases hendpoint
    | cons c path =>
      obtain rfl := Except.ok.inj hendpoint
      rfl
  · by_cases hscheme : ∀ s ∈ Endpoint.schemes, ¬s.1.toList <+: text
    · exact means_noScheme_iff hipc hscheme hendpoint htarget
    · push Not at hscheme
      obtain ⟨⟨scheme, port⟩, hmem, rest, rfl⟩ := hscheme
      rcases scheme_cases hmem with ⟨transport, hown⟩ | hunsupported
      · exact means_scheme_iff hown hendpoint htarget
      · rw [hunsupported] at htarget
        cases htarget

/-- An address that goes on with a path, and a host and a port that a client takes for a path. -/
theorem means_iff_not_apart_ports :
    (Endpoint.read " ws://[::1]:08546/x?y " = .ok (.tcp "::1" 8546) ∧
      read " ws://[::1]:08546/x?y " = .ok (.tcp .ws "[::1]:08546") ∧
      Means (.tcp .ws "[::1]:08546") (.tcp "::1" 8546) ∧
      ¬Apart (Blank.trimChars " ws://[::1]:08546/x?y ".toList)) ∧
    (Endpoint.read "localhost:8545" = .ok (.tcp "localhost" 8545) ∧
      read "localhost:8545" = .ok (.ipc "localhost:8545") ∧
      Apart (Blank.trimChars "localhost:8545".toList)) := by
  have hendpoint : Endpoint.read " ws://[::1]:08546/x?y " = .ok (.tcp "::1" 8546) := by
    decide +kernel
  have htarget : read " ws://[::1]:08546/x?y " = .ok (.tcp .ws "[::1]:08546") := by decide +kernel
  have hmeans : Means (.tcp .ws "[::1]:08546") (.tcp "::1" 8546) :=
    ⟨"08546".toList, by decide, .inr (by decide)⟩
  have hplain : Endpoint.read "localhost:8545" = .ok (.tcp "localhost" 8545) := by decide +kernel
  have hpath : read "localhost:8545" = .ok (.ipc "localhost:8545") := by decide +kernel
  refine ⟨⟨hendpoint, htarget, hmeans, (means_iff_not_apart hendpoint htarget).1 hmeans⟩,
    hplain, hpath, ?_⟩
  by_contra hapart
  exact (means_iff_not_apart hplain hpath).2 hapart

end DaemonDialogue.Node.Target
