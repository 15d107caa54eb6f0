import DaemonDialogue.Endpoint.Basic
import DaemonDialogue.Proofs.Text.Cut
import DaemonDialogue.Proofs.Text.Numeral

/-!
# Hosts and ports in an authority

An authority is taken apart at the bracket that closes its host, or at its last colon. There are
four ways to write one, and every part of it is the host or the port, but for what follows a
closing bracket without a colon.
-/

namespace DaemonDialogue.Endpoint

/-- How an authority is written: its host alone or in brackets, with a port or without one. What
follows a closing bracket is a port only behind a colon. -/
inductive Written : List Char → List Char → Option (List Char) → Prop
  | plain {host : List Char} (hopen : host.head? ≠ some '[') (hcolon : ':' ∉ host) :
      Written host host none
  | plainPort {host port : List Char} (hopen : (host ++ ':' :: port).head? ≠ some '[')
      (hcolon : ':' ∉ port) : Written (host ++ ':' :: port) host (some port)
  | bracketed {host behind : List Char} (hclose : ']' ∉ host) (hcolon : behind.head? ≠ some ':') :
      Written ('[' :: (host ++ ']' :: behind)) host none
  | bracketedPort {host port : List Char} (hclose : ']' ∉ host) :
      Written ('[' :: (host ++ ']' :: ':' :: port)) host (some port)

variable {text whole rest : List Char} {default? : Option Nat}

theorem hostAndPort?_open (rest : List Char) :
    hostAndPort? ('[' :: rest) =
      (Cut.atFirst? ']' rest).map fun (host, after) => (host, Cut.behind? [':'] after) := rfl

theorem hostAndPort?_plain (h : text.head? ≠ some '[') :
    hostAndPort? text = match Cut.atLast? ':' text with
      | some (host, port) => some (host, some port)
      | none => some (text, none) := by
  unfold hostAndPort?
  split
  · exact absurd rfl h
  · rfl

theorem behind?_colon_eq_none_iff {after : List Char} :
    Cut.behind? [':'] after = none ↔ after.head? ≠ some ':' := by
  cases after with
  | nil => simp [Cut.behind?]
  | cons c after => by_cases hc : c = ':' <;> simp [Cut.behind?, hc, eq_comm]

/-- A host and a port are those of an authority exactly if it is written from them. -/
theorem hostAndPort?_eq_some_iff {host : List Char} {port? : Option (List Char)} :
    hostAndPort? text = some (host, port?) ↔ Written text host port? := by
  constructor
  · intro h
    by_cases hopen : text.head? = some '['
    · obtain ⟨rest, rfl⟩ := List.head?_eq_some_iff.1 hopen
      rw [hostAndPort?_open] at h
      obtain ⟨⟨first, after⟩, hfirst, hparts⟩ := Option.map_eq_some_iff.1 h
      obtain ⟨rfl, rfl⟩ := Prod.mk.inj hparts
      obtain ⟨rfl, hclose⟩ := Cut.atFirst?_eq_some_iff.1 hfirst
      cases hbehind : Cut.behind? [':'] after with
      | some port =>
        obtain rfl := Cut.behind?_eq_some_iff.1 hbehind
        exact .bracketedPort hclose
      | none => exact .bracketed hclose (behind?_colon_eq_none_iff.1 hbehind)
    · rw [hostAndPort?_plain hopen] at h
      cases hlast : Cut.atLast? ':' text with
      | some parts =>
        rw [hlast] at h
        obtain ⟨rfl, rfl⟩ := Prod.mk.inj (Option.some.inj h)
        obtain ⟨rfl, hcolon⟩ := Cut.atLast?_eq_some_iff.1 hlast
        exact .plainPort hopen hcolon
      | none =>
        rw [hlast] at h
        obtain ⟨rfl, rfl⟩ := Prod.mk.inj (Option.some.inj h)
        exact .plain hopen (Cut.atLast?_eq_none_iff.1 hlast)
  · intro h
    cases h with
    | plain hopen hcolon => rw [hostAndPort?_plain hopen, Cut.atLast?_eq_none_iff.2 hcolon]
    | plainPort hopen hcolon =>
      rw [hostAndPort?_plain hopen, Cut.atLast?_eq_some_iff.2 ⟨rfl, hcolon⟩]
    | bracketed hclose hcolon =>
      rw [hostAndPort?_open, Cut.atFirst?_append hclose, Option.map_some]
      dsimp only
      rw [behind?_colon_eq_none_iff.2 hcolon]
    | bracketedPort hclose =>
      rw [hostAndPort?_open, Cut.atFirst?_append hclose]
      rfl

/-! ## Ports -/

/-- The port of an authority: the number it is written as, or the default if it is not written. -/
def portOf? (default? : Option Nat) : Option (List Char) → Option Nat
  | some numeral => (Numeral.read Numeral.maxU16 (String.ofList numeral)).toOption
  | none => default?

variable {host : List Char} {numeral? : Option (List Char)} {port : Nat} {d : Endpoint}

theorem ofAuthority_of_written (hwritten : Written text host numeral?) (hne : host ≠ [])
    (hport : portOf? default? numeral? = some port) :
    ofAuthority whole text default? = .ok (.tcp (String.ofList host) port) := by
  rw [ofAuthority, hostAndPort?_eq_some_iff.2 hwritten]
  cases host with
  | nil => exact absurd rfl hne
  | cons c host =>
    cases numeral? with
    | some numeral =>
      dsimp only
      cases hread : Numeral.read Numeral.maxU16 (String.ofList numeral) with
      | ok n =>
        rw [portOf?, hread] at hport
        obtain rfl := Option.some.inj hport
        rfl
      | error fault =>
        rw [portOf?, hread] at hport
        cases hport
    | none =>
      rw [portOf?] at hport
      rw [hport]

theorem exists_written (h : ofAuthority whole text default? = .ok d) :
    ∃ host numeral? port, Written text host numeral? ∧ host ≠ [] ∧
      portOf? default? numeral? = some port ∧ d = .tcp (String.ofList host) port := by
  unfold ofAuthority at h
  split at h
  · cases h
  · cases h
  · next host numeral? hne hparts =>
    have hwritten := hostAndPort?_eq_some_iff.1 hparts
    have hhost : host ≠ [] := by
      rintro rfl
      exact hne rfl
    split at h
    · next numeral =>
      split at h
      · next n hread =>
        refine ⟨host, some numeral, n, hwritten, hhost, ?_, (Except.ok.inj h).symm⟩
        rw [portOf?, hread]
        rfl
      · cases h
    · exact ⟨host, none, _, hwritten, hhost, rfl, (Except.ok.inj h).symm⟩
    · cases h

/-! ## Texts with a scheme -/

theorem exists_scheme (h : schemeOf? text = some (port, rest)) :
    ∃ scheme, (scheme, port) ∈ schemes ∧ text = scheme.toList ++ rest := by
  obtain ⟨⟨scheme, port'⟩, hmem, hbehind⟩ := List.exists_of_findSome?_eq_some h
  obtain ⟨rest', hrest, hparts⟩ := Option.map_eq_some_iff.1 hbehind
  obtain ⟨rfl, rfl⟩ := Prod.mk.inj hparts
  exact ⟨scheme, hmem, Cut.behind?_eq_some_iff.1 hrest⟩

theorem readTrimmed_scheme {scheme : String} (h : (scheme, port) ∈ schemes) (rest : List Char) :
    readTrimmed (scheme.toList ++ rest) =
      ofAuthority (scheme.toList ++ rest) (authority rest) (some port) := by
  simp only [schemes, List.mem_cons, Prod.mk.injEq, List.not_mem_nil, or_false] at h
  rcases h with ⟨rfl, rfl⟩ | ⟨rfl, rfl⟩ | ⟨rfl, rfl⟩ | ⟨rfl, rfl⟩
  all_goals rfl

theorem portOf?_some_iff {numeral : List Char} :
    portOf? default? (some numeral) = some port ↔
      Numeral.read Numeral.maxU16 (String.ofList numeral) = .ok port := by
  rw [portOf?]
  cases Numeral.read Numeral.maxU16 (String.ofList numeral) with
  | ok n => simp [Except.toOption]
  | error fault => simp [Except.toOption]

/-- A text with a scheme names a host and a port exactly if its authority is the host, alone or in
brackets, and then the port, or nothing and the port is that of the scheme. But what follows a
closing bracket without a colon is ignored. -/
theorem read_url_iff {text scheme : String} {default : Nat} {rest : List Char}
    (hscheme : (scheme, default) ∈ schemes)
    (htext : Blank.trimChars text.toList = scheme.toList ++ rest) (host : String) (port : Nat) :
    read text = .ok (.tcp host port) ↔ host ≠ "" ∧
      ((authority rest = host.toList ∧ port = default ∧
          host.toList.head? ≠ some '[' ∧ ':' ∉ host.toList) ∨
        (∃ ignored, authority rest = '[' :: (host.toList ++ ']' :: ignored) ∧ port = default ∧
          ']' ∉ host.toList ∧ ignored.head? ≠ some ':') ∨
        (∃ numeral, authority rest = host.toList ++ ':' :: numeral ∧
          Numeral.read Numeral.maxU16 (String.ofList numeral) = .ok port ∧
          (authority rest).head? ≠ some '[' ∧ ':' ∉ numeral) ∨
        ∃ numeral, authority rest = '[' :: (host.toList ++ ']' :: ':' :: numeral) ∧
          Numeral.read Numeral.maxU16 (String.ofList numeral) = .ok port ∧
          ']' ∉ host.toList) := by
  rw [read, htext, readTrimmed_scheme hscheme]
  generalize authority rest = named
  constructor
  · intro h
    obtain ⟨chars, numeral?, n, hwritten, hne, hport, hd⟩ := exists_written h
    obtain ⟨rfl, rfl⟩ : host = String.ofList chars ∧ port = n := by simpa using hd
    rw [String.toList_ofList]
    refine ⟨?_, ?_⟩
    · intro hempty
      apply hne
      simpa using hempty
    · cases hwritten with
      | plain hopen hcolon => exact .inl ⟨rfl, (Option.some.inj hport).symm, hopen, hcolon⟩
      | bracketed hclose hcolon =>
        exact .inr (.inl ⟨_, rfl, (Option.some.inj hport).symm, hclose, hcolon⟩)
      | plainPort hopen hcolon =>
        exact .inr (.inr (.inl ⟨_, rfl, portOf?_some_iff.1 hport, hopen, hcolon⟩))
      | bracketedPort hclose =>
        exact .inr (.inr (.inr ⟨_, rfl, portOf?_some_iff.1 hport, hclose⟩))
  · rintro ⟨hne, hform⟩
    have hhost : host.toList ≠ [] := by simpa using hne
    rw [← String.ofList_toList (s := host)]
    rcases hform with ⟨rfl, rfl, hopen, hcolon⟩ | ⟨ignored, rfl, rfl, hclose, hcolon⟩ |
      ⟨numeral, rfl, hread, hopen, hcolon⟩ | ⟨numeral, rfl, hread, hclose⟩
    · exact ofAuthority_of_written (.plain hopen hcolon) hhost rfl
    · exact ofAuthority_of_written (.bracketed hclose hcolon) hhost rfl
    · exact ofAuthority_of_written (.plainPort hopen hcolon) hhost (portOf?_some_iff.2 hread)
    · exact ofAuthority_of_written (.bracketedPort hclose) hhost (portOf?_some_iff.2 hread)

/-- A bracket that is closed, a path, and blanks around it all. -/
theorem read_url_iff_bracketed :
    ("https://", 443) ∈ schemes ∧
      Blank.trimChars " https://[::1]:8443/x:1 ".toList =
        "https://".toList ++ "[::1]:8443/x:1".toList ∧
      read " https://[::1]:8443/x:1 " = .ok (.tcp "::1" 8443) := by
  have hscheme : ("https://", 443) ∈ schemes := by decide
  have htext : Blank.trimChars " https://[::1]:8443/x:1 ".toList =
      "https://".toList ++ "[::1]:8443/x:1".toList := by decide +kernel
  refine ⟨hscheme, htext, (read_url_iff hscheme htext "::1" 8443).2 ?_⟩
  refine ⟨by decide, .inr (.inr (.inr ⟨"8443".toList, ?_⟩))⟩
  decide +kernel

/-- What stands behind a closing bracket is no part of the host or of the port. -/
theorem read_url_ignores :
    let rest := "[::1]8080".toList
    Blank.trimChars "http://[::1]8080".toList = "http://".toList ++ rest ∧
      read "http://[::1]8080" = .ok (.tcp "::1" 80) ∧
      authority rest ≠ "::1".toList ∧ authority rest ≠ "[::1]".toList ∧
      (∀ numeral, authority rest ≠ "::1".toList ++ ':' :: numeral) ∧
      ∀ numeral, authority rest ≠ "[::1]".toList ++ ':' :: numeral := by
  intro rest
  have hauthority : authority rest = rest := by decide +kernel
  refine ⟨by decide +kernel, by decide +kernel, ?_⟩
  rw [hauthority]
  exact ⟨by decide, by decide, by simp [rest], by simp [rest]⟩

end DaemonDialogue.Endpoint
