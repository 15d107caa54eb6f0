import DaemonDialogue.Proofs.Endpoint.Authority
import DaemonDialogue.Proofs.Text.Blank

/-!
# Endpoints shown and read again

The path of a socket is always read back from the text of its endpoint. A host is read back unless
its text is taken for something else: a closing bracket ends it, a backslash makes it a path, and
without a colon it stands where a blank, a bracket, the beginning of a path or the word in front of
paths would stand.
-/

namespace DaemonDialogue.Endpoint

/-- Does the text of an endpoint show this host so that it is read back? -/
def ShowsHost (host : String) : Prop :=
  (':' ∈ host.toList ∧ ']' ∉ host.toList ∧ '\\' ∉ host.toList) ∨
    (':' ∉ host.toList ∧ '\\' ∉ host.toList ∧ host ≠ "ipc" ∧
      ∀ c ∈ host.toList.head?, isBlank c = false ∧ c ≠ '[' ∧ c ≠ '/' ∧ c ≠ '.')

variable {text before : List Char} {host : String} {port : Nat}

/-! ## What is shown -/

theorem toList_render_ipc (path : String) :
    (render (.ipc path)).toList = "ipc:".toList ++ path.toList := by
  simp [render]

theorem toList_render_colon (h : ':' ∈ host.toList) (port : Nat) :
    (render (.tcp host port)).toList =
      ('[' :: (host.toList ++ [']'])) ++ ':' :: Nat.toDigits 10 port := by
  simp [render, h]
  rfl

theorem toList_render_plain (h : ':' ∉ host.toList) (port : Nat) :
    (render (.tcp host port)).toList = host.toList ++ ':' :: Nat.toDigits 10 port := by
  simp [render, h]
  rfl

/-! ## Texts that end in a port -/

theorem notMem_port {c : Char} (h : Ascii.isDigit c = false) (port : Nat) :
    c ∉ Nat.toDigits 10 port := by
  intro hmem
  have hdigit := Numeral.isDigit_of_mem_toDigits hmem
  rw [h] at hdigit
  cases hdigit

theorem isDigit_getLast?_port (before : List Char) (port : Nat) :
    ∀ c ∈ (before ++ ':' :: Nat.toDigits 10 port).getLast?, Ascii.isDigit c = true := by
  intro c hc
  have hne : Nat.toDigits 10 port ≠ [] := Nat.toDigits_ne_nil
  rw [List.getLast?_append_cons, List.getLast?_cons_of_ne_nil hne] at hc
  exact Numeral.isDigit_of_mem_toDigits (List.mem_of_getLast? hc)

theorem trimChars_port (before : List Char) (port : Nat) :
    Blank.trimChars (before ++ ':' :: Nat.toDigits 10 port) =
      before.dropWhile isBlank ++ ':' :: Nat.toDigits 10 port := by
  apply Blank.trimChars_append
  · decide
  · intro c hc
    exact Blank.isBlank_of_isDigit (isDigit_getLast?_port [] port c hc)

/-- The first colon of two texts is the same. -/
theorem eq_of_append_colon {before other after rest : List Char} (hbefore : ':' ∉ before)
    (hother : ':' ∉ other) (h : before ++ ':' :: after = other ++ ':' :: rest) :
    before = other ∧ after = rest := by
  have hcut := Cut.atFirst?_append hbefore after
  rw [h, Cut.atFirst?_append hother] at hcut
  simpa [eq_comm] using hcut

theorem not_scheme_port (hbefore : ':' ∉ before) (port : Nat) :
    ∀ s ∈ schemes, ¬s.1.toList <+: before ++ ':' :: Nat.toDigits 10 port := by
  rintro ⟨scheme, default⟩ hmem ⟨rest, htext⟩
  have hshape : ∃ name, scheme.toList = name ++ ':' :: ['/', '/'] ∧ ':' ∉ name := by
    simp only [schemes, List.mem_cons, Prod.mk.injEq, List.not_mem_nil, or_false] at hmem
    rcases hmem with ⟨rfl, -⟩ | ⟨rfl, -⟩ | ⟨rfl, -⟩ | ⟨rfl, -⟩
    · exact ⟨"http".toList, by decide, by decide⟩
    · exact ⟨"https".toList, by decide, by decide⟩
    · exact ⟨"ws".toList, by decide, by decide⟩
    · exact ⟨"wss".toList, by decide, by decide⟩
  obtain ⟨name, hscheme, hname⟩ := hshape
  dsimp only at htext
  rw [hscheme, List.append_assoc] at htext
  obtain ⟨-, hdigits⟩ := eq_of_append_colon hname hbefore htext
  have hslash : '/' ∉ Nat.toDigits 10 port := notMem_port (by decide) port
  rw [← hdigits] at hslash
  simp at hslash

theorem looksLikePath_port (before : List Char) (port : Nat) :
    looksLikePath (before ++ ':' :: Nat.toDigits 10 port) = false ↔
      '\\' ∉ before ∧ ∀ c ∈ before.head?, c ≠ '/' ∧ c ≠ '.' := by
  have hsuffix : ".ipc".toList.isSuffixOf (before ++ ':' :: Nat.toDigits 10 port) = false := by
    rw [Bool.eq_false_iff, ne_eq, List.isSuffixOf_iff_suffix]
    rintro ⟨rest, htext⟩
    have hlast := isDigit_getLast?_port before port 'c' (by rw [← htext]; simp)
    exact absurd hlast (by decide)
  have hslash : '\\' ∉ Nat.toDigits 10 port := notMem_port (by decide) port
  rw [looksLikePath, hsuffix]
  cases before with
  | nil => simp [hslash]
  | cons c before => simp [hslash, and_comm, and_assoc]

/-! ## Reading without a scheme -/

theorem schemeOf?_eq_none (hscheme : ∀ s ∈ schemes, ¬s.1.toList <+: text) :
    schemeOf? text = none := by
  rcases hfound : schemeOf? text with _ | ⟨port, rest⟩
  · rfl
  · obtain ⟨scheme, hmem, htext⟩ := exists_scheme hfound
    exact absurd ⟨_, htext.symm⟩ (hscheme _ hmem)

theorem readTrimmed_noScheme (hipc : ¬"ipc:".toList <+: text)
    (hscheme : ∀ s ∈ schemes, ¬s.1.toList <+: text) :
    readTrimmed text =
      if text.isEmpty then .error .empty
      else if looksLikePath text then .ok (.ipc (String.ofList text))
      else ofAuthority text text none := by
  rw [readTrimmed, Cut.behind?_eq_none_iff.2 hipc, schemeOf?_eq_none hscheme]

theorem readTrimmed_tcp_iff (hscheme : ∀ s ∈ schemes, ¬s.1.toList <+: text) :
    readTrimmed text = .ok (.tcp host port) ↔ ¬"ipc:".toList <+: text ∧
      looksLikePath text = false ∧ ofAuthority text text none = .ok (.tcp host port) := by
  unfold readTrimmed
  rw [schemeOf?_eq_none hscheme]
  by_cases hempty : text = []
  · subst hempty
    simp [looksLikePath]
  · rw [if_neg (by simpa using hempty)]
    cases hipc : Cut.behind? "ipc:".toList text with
    | none =>
      cases hpath : looksLikePath text with
      | true => simp
      | false => simpa using fun _ => Cut.behind?_eq_none_iff.1 hipc
    | some path =>
      have hmarked : "ipc:".toList <+: text := ⟨path, (Cut.behind?_eq_some_iff.1 hipc).symm⟩
      refine iff_of_false ?_ fun h => h.1 hmarked
      cases path with
      | nil => simp
      | cons c path => simp

theorem ofAuthority_none_iff :
    ofAuthority text text none = .ok (.tcp host port) ↔
      host ≠ "" ∧ ∃ numeral, Written text host.toList (some numeral) ∧
        Numeral.read Numeral.maxU16 (String.ofList numeral) = .ok port := by
  constructor
  · intro h
    obtain ⟨chars, numeral?, n, hwritten, hne, hport, hd⟩ := exists_written h
    obtain ⟨rfl, rfl⟩ : host = String.ofList chars ∧ port = n := by simpa using hd
    rw [String.toList_ofList]
    cases numeral? with
    | none => cases hport
    | some numeral =>
      refine ⟨?_, numeral, hwritten, portOf?_some_iff.1 hport⟩
      intro hempty
      apply hne
      simpa using hempty
  · rintro ⟨hne, numeral, hwritten, hread⟩
    rw [← String.ofList_toList (s := host)]
    exact ofAuthority_of_written hwritten (by simpa using hne) (portOf?_some_iff.2 hread)

/-! ## Hosts -/

/-- A host with a colon is shown in brackets, and read back unless it has one that closes them or
makes a path of it all. -/
theorem read_render_colon (hcolon : ':' ∈ host.toList) (hport : port ≤ Numeral.maxU16) :
    read (render (.tcp host port)) = .ok (.tcp host port) ↔
      ']' ∉ host.toList ∧ '\\' ∉ host.toList := by
  have hne : host ≠ "" := by
    rintro rfl
    simp at hcolon
  have hscheme : ∀ s ∈ schemes,
      ¬s.1.toList <+: ('[' :: (host.toList ++ [']'])) ++ ':' :: Nat.toDigits 10 port := by
    simp [schemes]
  rw [read, toList_render_colon hcolon, trimChars_port, List.dropWhile_cons_of_neg (by decide),
    readTrimmed_tcp_iff hscheme, looksLikePath_port, ofAuthority_none_iff]
  constructor
  · rintro ⟨-, ⟨hslash, -⟩, -, numeral, hwritten, -⟩
    have hclose : ']' ∉ host.toList := by
      generalize hshown : ('[' :: (host.toList ++ [']'])) ++ ':' :: Nat.toDigits 10 port = shown
        at hwritten
      cases hwritten with
      | plainPort hopen _ =>
        rw [← hshown] at hopen
        exact absurd rfl hopen
      | bracketedPort hclose => exact hclose
    exact ⟨hclose, by simpa using hslash⟩
  · rintro ⟨hclose, hslash⟩
    have hwritten : Written _ host.toList (some (Nat.toDigits 10 port)) := .bracketedPort hclose
    refine ⟨by simp, ⟨by simpa using hslash, by simp⟩, hne, Nat.toDigits 10 port, ?_,
      Numeral.read_toString hport⟩
    simpa using hwritten

/-- Where a host without a colon is read back from what is shown, nothing was in front of it. -/
theorem eq_of_written {first : List Char} {numeral : List Char} (hfirst : first <:+ host.toList)
    (hcolon : ':' ∉ host.toList)
    (hwritten : Written (first ++ ':' :: Nat.toDigits 10 port) host.toList (some numeral)) :
    first = host.toList ∧ (first ++ ':' :: Nat.toDigits 10 port).head? ≠ some '[' := by
  have hfirstColon : ':' ∉ first := fun hmem => hcolon (hfirst.subset hmem)
  generalize hshown : first ++ ':' :: Nat.toDigits 10 port = shown at hwritten
  cases hwritten with
  | plainPort hopen _ =>
    obtain ⟨rfl, -⟩ := eq_of_append_colon hfirstColon hcolon hshown
    exact ⟨rfl, hopen⟩
  | bracketedPort _ =>
    have hbracket : ':' ∉ '[' :: (host.toList ++ [']']) := by simpa using hcolon
    have hsplit : '[' :: (host.toList ++ ']' :: ':' :: numeral) =
        ('[' :: (host.toList ++ [']'])) ++ ':' :: numeral := by simp
    rw [hsplit] at hshown
    obtain ⟨rfl, -⟩ := eq_of_append_colon hfirstColon hbracket hshown
    have hlength := hfirst.length_le
    rw [List.length_cons, List.length_append, List.length_singleton] at hlength
    omega

/-- A host without a colon is shown as it is, and read back unless it begins like something else. -/
theorem read_render_plain (hcolon : ':' ∉ host.toList) (hne : host ≠ "")
    (hport : port ≤ Numeral.maxU16) :
    read (render (.tcp host port)) = .ok (.tcp host port) ↔
      '\\' ∉ host.toList ∧ host ≠ "ipc" ∧
        ∀ c ∈ host.toList.head?, isBlank c = false ∧ c ≠ '[' ∧ c ≠ '/' ∧ c ≠ '.' := by
  have hsuffix : host.toList.dropWhile isBlank <:+ host.toList := List.dropWhile_suffix _
  have hfirstColon : ':' ∉ host.toList.dropWhile isBlank :=
    fun hmem => hcolon (hsuffix.subset hmem)
  obtain ⟨c, rest, hchars⟩ : ∃ c rest, host.toList = c :: rest :=
    List.exists_cons_of_ne_nil (by simpa using hne)
  rw [read, toList_render_plain hcolon, trimChars_port,
    readTrimmed_tcp_iff (not_scheme_port hfirstColon port), looksLikePath_port,
    ofAuthority_none_iff]
  constructor
  · rintro ⟨hipc, ⟨hslash, hpath⟩, -, numeral, hwritten, -⟩
    obtain ⟨hsame, hopen⟩ := eq_of_written hsuffix hcolon hwritten
    rw [hsame] at hipc hslash hpath hopen
    refine ⟨hslash, ?_, ?_⟩
    · rintro rfl
      exact hipc (List.prefix_append _ _)
    · intro first hfirst
      have hblank := List.head?_dropWhile_not isBlank host.toList
      rw [hsame, hfirst] at hblank
      refine ⟨by simpa using hblank, ?_, hpath first hfirst⟩
      rintro rfl
      rw [List.head?_append, hfirst] at hopen
      exact hopen rfl
  · rintro ⟨hslash, hipc, hhead⟩
    have hsame : host.toList.dropWhile isBlank = host.toList := by
      rw [hchars, List.dropWhile_cons_of_neg]
      simp [(hhead c (by simp [hchars])).1]
    rw [hsame]
    refine ⟨?_, ⟨hslash, fun first hfirst => (hhead first hfirst).2.2⟩, hne,
      Nat.toDigits 10 port, .plainPort ?_ (notMem_port (by decide) port),
      Numeral.read_toString hport⟩
    · rintro ⟨path, htext⟩
      have hword : "ipc".toList ++ ':' :: path = host.toList ++ ':' :: Nat.toDigits 10 port := htext
      obtain ⟨heq, -⟩ := eq_of_append_colon (by decide) hcolon hword
      exact hipc (String.toList_inj.1 heq.symm)
    · rw [hchars, List.cons_append, List.head?_cons]
      rintro ⟨⟩
      exact (hhead '[' (by simp [hchars])).2.1 rfl

/-! ## Endpoints that were read -/

theorem exists_of_ofAuthority {whole : List Char} {default? : Option Nat} {d : Endpoint}
    (hdefault : ∀ n ∈ default?, n ≤ Numeral.maxU16) (h : ofAuthority whole text default? = .ok d) :
    ∃ host port, d = .tcp host port ∧ host ≠ "" ∧ port ≤ Numeral.maxU16 := by
  obtain ⟨chars, numeral?, port, -, hne, hport, rfl⟩ := exists_written h
  refine ⟨String.ofList chars, port, rfl, ?_, ?_⟩
  · intro hempty
    apply hne
    simpa using hempty
  · cases numeral? with
    | none => exact hdefault port hport
    | some numeral => exact Numeral.read_le (portOf?_some_iff.1 hport)

theorem exists_of_readTrimmed {d : Endpoint} (h : readTrimmed text = .ok d) :
    (∃ path, d = .ipc (String.ofList path) ∧ path ≠ [] ∧ path <:+ text) ∨
      ∃ host port, d = .tcp host port ∧ host ≠ "" ∧ port ≤ Numeral.maxU16 := by
  unfold readTrimmed at h
  by_cases hempty : text = []
  · subst hempty
    cases h
  · rw [if_neg (by simpa using hempty)] at h
    split at h
    · cases h
    · next path hne hipc =>
      obtain rfl := Except.ok.inj h
      exact .inl ⟨path, rfl, hne, _, (Cut.behind?_eq_some_iff.1 hipc).symm⟩
    · split at h
      · next port rest hscheme =>
        obtain ⟨scheme, hmem, -⟩ := exists_scheme hscheme
        have hdefault : ∀ s ∈ schemes, s.2 ≤ Numeral.maxU16 := by decide
        exact .inr (exists_of_ofAuthority (by simpa using hdefault _ hmem) h)
      · by_cases hpath : looksLikePath text = true
        · rw [if_pos hpath] at h
          obtain rfl := Except.ok.inj h
          exact .inl ⟨text, rfl, hempty, List.suffix_rfl⟩
        · rw [if_neg hpath] at h
          exact .inr (exists_of_ofAuthority (by simp) h)

theorem read_render_ipc {path : String} (hne : path ≠ "")
    (hlast : ∀ c ∈ path.toList.getLast?, isBlank c = false) :
    read (render (.ipc path)) = .ok (.ipc path) := by
  obtain ⟨first, rest, hchars⟩ : ∃ first rest, path.toList = first :: rest :=
    List.exists_cons_of_ne_nil (by simpa using hne)
  have htrim : Blank.trimChars ("ipc:".toList ++ path.toList) = "ipc:".toList ++ path.toList := by
    apply Blank.trimChars_eq_self
    · intro c hc
      obtain rfl : 'i' = c := by simpa using hc
      decide
    · intro c hc
      rw [hchars, List.getLast?_append_cons, ← hchars] at hc
      exact hlast c hc
  rw [read, toList_render_ipc, htrim, readTrimmed, Cut.behind?_eq_some_iff.2 rfl, hchars]
  dsimp only
  rw [if_neg (by simp), ← hchars, String.ofList_toList]

/-- An endpoint that some text names is shown as a text that names it again if it is a path, and if
it is a host exactly if the text shows the host: with a colon it must have no closing bracket and no
backslash; without one it must have no backslash, must not be the word in front of paths, and must
not begin with a blank, an opening bracket, a slash or a dot. -/
theorem read_render_iff {text : String} {d : Endpoint} (h : read text = .ok d) :
    (d.isIpc = true → read d.render = .ok d) ∧
      ∀ host port, d = .tcp host port → (read d.render = .ok d ↔ ShowsHost host) := by
  rcases exists_of_readTrimmed h with ⟨path, rfl, hne, hsuffix⟩ | ⟨host, port, rfl, hne, hport⟩
  · refine ⟨fun _ => read_render_ipc (by simpa using hne) ?_, ?_⟩
    · intro c hc
      rw [String.toList_ofList] at hc
      obtain ⟨before, htext⟩ := hsuffix
      refine Blank.isBlank_getLast?_trimChars text.toList ?_
      rw [← htext, List.getLast?_append_of_ne_nil _ hne]
      exact hc
    · rintro host port ⟨⟩
  · refine ⟨fun hipc => Bool.noConfusion hipc, ?_⟩
    rintro host port ⟨⟩
    by_cases hcolon : ':' ∈ host.toList
    · rw [read_render_colon hcolon hport, ShowsHost]
      simp [hcolon]
    · rw [read_render_plain hcolon hne hport, ShowsHost]
      simp [hcolon]

/-- A host that is shown so that it is taken for a path. -/
theorem read_render_iff_path :
    read "http://ipc" = .ok (.tcp "ipc" 80) ∧ ¬ShowsHost "ipc" ∧
      read (render (.tcp "ipc" 80)) ≠ .ok (.tcp "ipc" 80) := by
  have hread : read "http://ipc" = .ok (.tcp "ipc" 80) := by decide +kernel
  have hshows : ¬ShowsHost "ipc" := by
    simp [ShowsHost]
  exact ⟨hread, hshows, fun hagain =>
    hshows (((read_render_iff hread).2 "ipc" 80 rfl).1 hagain)⟩

end DaemonDialogue.Endpoint
