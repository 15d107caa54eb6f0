import DaemonDialogue.Proofs.Template.Scanner

/-!
# Blame

A source that cannot be read is blamed at the opening braces of a tag. A choice that does not end is
blamed where the innermost one opens. Any other fault is blamed where it is met first: what stands
before it can be read, but for choices whose ends are cut off.
-/

namespace DaemonDialogue.Template

/-! ## Choices that are open -/

/-- The number of choices open behind a piece, unless it ends one and finds none open. -/
def Piece.openBehind (depth : Nat) : Piece → Option Nat
  | .text _ => some depth
  | .tag _ body =>
    match Tag.ofBody body with
    | .if_ _ => some (depth + 1)
    | .end_ => if depth = 0 then none else some (depth - 1)
    | .else_ => some depth
    | .other _ => some depth

def openBehind (depth : Nat) (pieces : List Piece) : Option Nat :=
  pieces.foldlM Piece.openBehind depth

/-- Do pieces end all choices that open in them, and no others? -/
def Balanced (pieces : List Piece) : Prop := openBehind 0 pieces = some 0

theorem Piece.openBehind_succ {depth behind : Nat} {piece : Piece}
    (h : piece.openBehind depth = some behind) :
    piece.openBehind (depth + 1) = some (behind + 1) := by
  cases piece with
  | text content => simpa [Piece.openBehind] using h
  | tag offset body =>
    unfold Piece.openBehind at h ⊢
    dsimp only at h ⊢
    split at h
    · simpa using h
    · split_ifs at h with hdepth
      obtain rfl := Option.some.inj h
      rw [if_neg (Nat.succ_ne_zero depth)]
      congr 1
      omega
    · simpa using h
    · simpa using h

theorem openBehind_succ {depth behind : Nat} {pieces : List Piece}
    (h : openBehind depth pieces = some behind) :
    openBehind (depth + 1) pieces = some (behind + 1) := by
  induction pieces generalizing depth with
  | nil => simpa [openBehind] using h
  | cons piece pieces ih =>
    rw [openBehind, List.foldlM_cons] at h ⊢
    obtain ⟨middle, hpiece, hrest⟩ := Option.bind_eq_some_iff.1 h
    rw [Piece.openBehind_succ hpiece]
    exact ih hrest

theorem Balanced.append {pieces more : List Piece} (h : Balanced pieces) (hmore : Balanced more) :
    Balanced (pieces ++ more) := by
  rw [Balanced, openBehind] at h ⊢
  rw [List.foldlM_append, h]
  exact hmore

theorem Balanced.choice {offset offset' : Nat} {body body' condition : List Char}
    {pieces : List Piece} (hif : Tag.ofBody body = .if_ condition) (h : Balanced pieces)
    (hend : Tag.ofBody body' = .end_) :
    Balanced (.tag offset body :: pieces ++ [.tag offset' body']) := by
  have hinside := openBehind_succ h
  rw [openBehind] at hinside
  simp [Balanced, openBehind, Piece.openBehind, hif, hinside, hend]

theorem balanced_text (content : List Char) : Balanced [.text content] := rfl

theorem balanced_else {offset : Nat} {body : List Char} (h : Tag.ofBody body = .else_) :
    Balanced [.tag offset body] := by
  simp [Balanced, openBehind, Piece.openBehind, h]

theorem balanced_other {offset : Nat} {body other : List Char}
    (h : Tag.ofBody body = .other other) : Balanced [.tag offset body] := by
  simp [Balanced, openBehind, Piece.openBehind, h]

/-- The choices that are open behind some pieces, from the innermost on, each with its tag and
nothing but what is balanced behind that. -/
inductive Opens : List Piece → List OpenChoice → Prop
  | none {pieces : List Piece} (h : Balanced pieces) : Opens pieces []
  | choice {before behind : List Piece} {body condition : List Char} {o : OpenChoice}
    {outer : List OpenChoice} (h : Opens before outer) (hif : Tag.ofBody body = .if_ condition)
    (hbehind : Balanced behind) : Opens (before ++ .tag o.offset body :: behind) (o :: outer)

theorem Opens.append {pieces more : List Piece} {opened : List OpenChoice} (h : Opens pieces opened)
    (hmore : Balanced more) : Opens (pieces ++ more) opened := by
  cases h with
  | none h => exact .none (h.append hmore)
  | choice h hif hbehind =>
    rw [List.append_assoc, List.cons_append]
    exact .choice h hif (hbehind.append hmore)

/-- A tag opens a choice, ends the innermost one, or leaves all as they are. -/
theorem Opens.tag {pieces : List Piece} {r r' : Reading} {offset : Nat} {body : List Char}
    (h : Opens pieces r.opened) (htag : r.tag offset (Tag.ofBody body) = .ok r') :
    Opens (pieces ++ [.tag offset body]) r'.opened := by
  generalize hkind : Tag.ofBody body = t at htag
  cases Reading.step_of_tag htag with
  | end_ hopened =>
    rw [hopened] at h
    cases h with
    | choice h hif hbehind =>
      rw [List.append_assoc]
      exact h.append (hbehind.choice hif hkind)
  | @else_ o outer hopened =>
    rw [hopened] at h
    cases h with
    | choice h hif hbehind =>
      rw [List.append_assoc, List.cons_append]
      exact .choice (o := { o with yes := some r.current.reverse }) h hif
        (hbehind.append (balanced_else hkind))
  | if_ hname => exact .choice (o := ⟨offset, _, _, _⟩) h hkind rfl
  | other hnode => exact h.append (balanced_other hkind)

theorem Opens.pieces {done pieces : List Piece} {r r' : Reading} (h : Opens done r.opened)
    (hread : r.pieces pieces = .ok r') : Opens (done ++ pieces) r'.opened := by
  induction pieces generalizing done r with
  | nil =>
    obtain rfl := Except.ok.inj hread
    rwa [List.append_nil]
  | cons piece pieces ih =>
    rw [List.append_cons]
    cases piece with
    | text content =>
      rw [Reading.pieces] at hread
      exact ih (r := { r with current := .text (String.ofList content) :: r.current })
        (h.append (balanced_text content)) hread
    | tag offset body =>
      rw [Reading.pieces] at hread
      split at hread
      · next r₁ htag => exact ih (h.tag htag) hread
      · cases hread

/-- The innermost choice opens at its offset, and what is behind its tag is balanced. -/
theorem Opens.exists_innermost {pieces : List Piece} {o : OpenChoice} {outer : List OpenChoice}
    (h : Opens pieces (o :: outer)) :
    ∃ before body condition behind, pieces = before ++ .tag o.offset body :: behind ∧
      Tag.ofBody body = .if_ condition ∧ Balanced behind := by
  cases h with
  | choice _ hif hbehind => exact ⟨_, _, _, _, rfl, hif, hbehind⟩

/-! ## Sources that are cut off -/

/-- Pieces up to a tag, with or without its end, from an offset on. -/
def UpToTag (offset : Nat) (text : List Char) (before : List Piece) (start : Nat) : Prop :=
  (∃ body behind, (piecesFrom offset text).1 = before ++ .tag start body :: behind) ∨
    piecesFrom offset text = (before, some start)

theorem tag_notMem_textPiece {before : List Char} {offset : Nat} {body : List Char} :
    .tag offset body ∉ piecesFrom.textPiece before := by
  unfold piecesFrom.textPiece
  split_ifs <;> simp

/-- The first tag that a text is read up to is the one behind its first opening braces. -/
theorem upToTag_cases {offset start : Nat} {text content inside : List Char} {before : List Piece}
    (h : UpToTag offset text before start)
    (hopen : splitOpen [] text = (content, some inside)) :
    (before = piecesFrom.textPiece content ∧ start = offset + Utf8.width content) ∨
      ∃ body behind more, splitClose false [] inside = some (body, behind) ∧
        before = piecesFrom.textPiece content ++
          .tag (offset + Utf8.width content) body.reverse :: more ∧
        UpToTag (offset + Utf8.width content + Utf8.width body + 4) behind more start := by
  cases hclose : splitClose false [] inside with
  | none =>
    rw [UpToTag, piecesFrom_of_open offset hopen hclose] at h
    rcases h with ⟨body, behind, htext⟩ | h
    · dsimp only at htext
      have hmem : Piece.tag start body ∈ piecesFrom.textPiece content := by simp [htext]
      exact absurd hmem tag_notMem_textPiece
    · obtain ⟨rfl, hstart⟩ := Prod.ext_iff.1 h
      exact .inl ⟨rfl, (Option.some.inj hstart).symm⟩
  | some split =>
    obtain ⟨body, behind⟩ := split
    rw [UpToTag, piecesFrom_of_tag offset hopen hclose] at h
    rcases h with ⟨body', behind', htext⟩ | h
    · rcases List.append_eq_append_iff.1 htext with ⟨more, rfl, hrest⟩ | ⟨more, hcontent, hrest⟩
      · cases more with
        | nil =>
          obtain ⟨hstart, -⟩ := Piece.tag.inj (List.cons.inj hrest).1
          exact .inl ⟨List.append_nil _, hstart.symm⟩
        | cons piece more =>
          obtain ⟨rfl, hmore⟩ := List.cons.inj hrest
          exact .inr ⟨body, behind, more, rfl, rfl, .inl ⟨body', behind', hmore⟩⟩
      · cases more with
        | nil =>
          obtain ⟨hstart, -⟩ := Piece.tag.inj (List.cons.inj hrest).1
          exact .inl ⟨by simpa using hcontent.symm, hstart⟩
        | cons piece more =>
          obtain ⟨rfl, -⟩ := List.cons.inj hrest
          have hmem : Piece.tag start body' ∈ piecesFrom.textPiece content := by simp [hcontent]
          exact absurd hmem tag_notMem_textPiece
    · obtain ⟨rfl, hstart⟩ := Prod.ext_iff.1 h
      exact .inr ⟨body, behind, _, rfl, rfl, .inr (Prod.ext rfl hstart)⟩

theorem exists_front {offset start : Nat} {text : List Char} {before : List Piece}
    (h : UpToTag offset text before start) :
    ∃ front inside, text = front ++ openBraces ++ inside ∧ offset + Utf8.width front = start ∧
      piecesFrom offset front = (before, none) := by
  induction hlength : text.length using Nat.strong_induction_on generalizing offset text before with
  | _ length ih =>
    rcases hopen : splitOpen [] text with ⟨content, _ | inside⟩
    · rw [UpToTag, piecesFrom_of_text offset hopen] at h
      rcases h with ⟨body, behind, htext⟩ | h
      · dsimp only at htext
        have hmem : Piece.tag start body ∈ piecesFrom.textPiece content := by simp [htext]
        exact absurd hmem tag_notMem_textPiece
      · cases (Prod.ext_iff.1 h).2
    · obtain ⟨front, hcontent, htext, hplain⟩ := eq_of_splitOpen_some hopen
      obtain rfl : content = front.reverse := by simpa using hcontent
      rcases upToTag_cases h hopen with ⟨rfl, rfl⟩ | ⟨body, behind, more, hclose, rfl, hmore⟩
      · have hfront := splitOpen_plain [] (plain_concat.1 hplain).1
        rw [List.append_nil] at hfront
        exact ⟨front, inside, htext, by simp, piecesFrom_of_text offset hfront⟩
      · have hinside := splitOpen_length hopen
        have hbehind := splitClose_length hclose
        obtain ⟨rest, inside', rfl, hstart, hpieces⟩ := ih behind.length (by omega) hmore rfl
        obtain ⟨inner, rfl, rfl, hstable⟩ := eq_of_splitClose_some hclose
        -- The tag in front closes without what is cut off.
        have hfront := splitOpen_append [] (inner ++ '\x7d' :: '\x7d' :: rest) hplain
        rw [List.append_nil] at hfront
        refine ⟨front ++ openBraces ++ (inner ++ '\x7d' :: '\x7d' :: rest), inside',
          by simp [htext], ?_, ?_⟩
        · simp [openBraces, Char.utf8Size] at hstart ⊢
          omega
        · rw [piecesFrom_of_tag offset hfront (hstable rest), hpieces]

/-- A fault in pieces is met at the first tag that cannot be read. -/
theorem Reading.exists_of_pieces_error {r : Reading} {pieces : List Piece} {e : Error}
    (h : r.pieces pieces = .error e) :
    ∃ before start body behind r' fault, pieces = before ++ .tag start body :: behind ∧
      r.pieces before = .ok r' ∧ r'.tag start (Tag.ofBody body) = .error fault ∧
      e = .malformed start fault := by
  induction pieces generalizing r with
  | nil => cases h
  | cons piece pieces ih =>
    cases piece with
    | text content =>
      obtain ⟨before, start, body, behind, r', fault, rfl, hread, htag, rfl⟩ := ih h
      exact ⟨.text content :: before, start, body, behind, r', fault, rfl, hread, htag, rfl⟩
    | tag offset body =>
      rw [Reading.pieces] at h
      split at h
      · next r₁ hfirst =>
        obtain ⟨before, start, body', behind, r', fault, rfl, hread, htag, rfl⟩ := ih h
        refine ⟨.tag offset body :: before, start, body', behind, r', fault, rfl, ?_, htag, rfl⟩
        rw [Reading.pieces, hfirst]
        exact hread
      · next fault hfirst =>
        exact ⟨[], offset, body, pieces, r, fault, rfl, rfl, hfirst, (Except.error.inj h).symm⟩

theorem placeholder_ne_ifWithoutEnd {body : List Char} {fault : Fault}
    (h : placeholder body = .error fault) : fault ≠ .ifWithoutEnd := by
  unfold placeholder dotted at h
  grind

theorem Reading.tag_ne_ifWithoutEnd {r : Reading} {start : Nat} {t : Tag} {fault : Fault}
    (h : r.tag start t = .error fault) : fault ≠ .ifWithoutEnd := by
  cases t with
  | end_ =>
    rw [Reading.tag] at h
    split at h <;> cases h
    simp
  | else_ =>
    rw [Reading.tag] at h
    split at h
    · cases h
      simp
    · split_ifs at h
      cases h
      simp
  | if_ condition =>
    rw [Reading.tag] at h
    split_ifs at h
    cases h
    simp
  | other body =>
    rw [Reading.tag] at h
    cases hnode : placeholder body with
    | error fault' =>
      rw [hnode] at h
      obtain rfl := Except.error.inj h
      exact placeholder_ne_ifWithoutEnd hnode
    | ok node =>
      rw [hnode] at h
      cases h

/-! ## What is blamed -/

/-- Is the choice that opens at an offset the innermost one that a source leaves open? Its own
`else` may stand behind it, but its end does not. -/
def InnermostOpen (source : String) (offset : Nat) : Prop :=
  ∃ before body condition behind, pieces source = (before ++ .tag offset body :: behind, none) ∧
    Tag.ofBody body = .if_ condition ∧ Balanced behind

/-- Can a source be read, or could it be if its choices ended? -/
def ReadsSoFar (source : String) : Prop :=
  (∃ t, read source = .ok t) ∨ ∃ offset, read source = .error (.malformed offset .ifWithoutEnd)

theorem readsSoFar_of_pieces {front : List Char} {before : List Piece} {r : Reading}
    (hpieces : piecesFrom 0 front = (before, none)) (hread : Reading.pieces {} before = .ok r) :
    ReadsSoFar (String.ofList front) := by
  have hfinish : readNodes (String.ofList front) = r.finish := by
    rw [readNodes_eq, String.toList_ofList, Reading.readOn, hpieces, hread]
    rfl
  unfold ReadsSoFar read
  rw [hfinish, Reading.finish]
  cases r.opened with
  | nil => exact .inl ⟨_, rfl⟩
  | cons o outer => exact .inr ⟨_, rfl⟩

/-- Whatever is wrong with a source, the blame lies at opening braces: of the innermost choice that
is open, or of the first tag that cannot be read. -/
theorem blame_of_readNodes {source : String} {offset : Nat} {fault : Fault}
    (h : readNodes source = .error (.malformed offset fault)) :
    ∃ front behind, source.toList = front ++ openBraces ++ behind ∧ Utf8.width front = offset ∧
      ((fault = .ifWithoutEnd ∧ InnermostOpen source offset) ∨
        (fault ≠ .ifWithoutEnd ∧ ReadsSoFar (String.ofList front))) := by
  rw [readNodes_eq, Reading.readOn] at h
  cases hread : Reading.pieces {} (piecesFrom 0 source.toList).1 with
  | error e =>
    rw [hread] at h
    obtain ⟨before, start, body, behind, r, fault', hpieces, hbefore, htag, rfl⟩ :=
      Reading.exists_of_pieces_error hread
    obtain ⟨rfl, rfl⟩ := Error.malformed.inj (Except.error.inj h)
    obtain ⟨front, inside, hsource, hstart, hfront⟩ := exists_front (.inl ⟨body, behind, hpieces⟩)
    rw [Nat.zero_add] at hstart
    exact ⟨front, inside, hsource, hstart, .inr ⟨Reading.tag_ne_ifWithoutEnd htag,
      readsSoFar_of_pieces hfront hbefore⟩⟩
  | ok r =>
    rw [hread] at h
    cases hopen : (piecesFrom 0 source.toList).2 with
    | some start =>
      rw [hopen] at h
      obtain ⟨rfl, rfl⟩ := Error.malformed.inj (Except.error.inj h)
      obtain ⟨front, inside, hsource, hstart, hfront⟩ := exists_front (.inr (Prod.ext rfl hopen))
      rw [Nat.zero_add] at hstart
      exact ⟨front, inside, hsource, hstart, .inr ⟨by simp, readsSoFar_of_pieces hfront hread⟩⟩
    | none =>
      rw [hopen] at h
      change r.finish = _ at h
      have hnothing : Opens [] (Reading.opened {}) := .none rfl
      have hopens := hnothing.pieces hread
      unfold Reading.finish at h
      split at h
      · cases h
      · next o outer hopened =>
        obtain ⟨rfl, rfl⟩ := Error.malformed.inj (Except.error.inj h)
        rw [hopened, List.nil_append] at hopens
        obtain ⟨before, body, condition, behind, hpieces, hif, hbehind⟩ := hopens.exists_innermost
        obtain ⟨front, inside, hsource, hstart, -⟩ := exists_front (.inl ⟨body, behind, hpieces⟩)
        rw [Nat.zero_add] at hstart
        exact ⟨front, inside, hsource, hstart, .inl ⟨rfl, before, body, condition, behind,
          Prod.ext hpieces hopen, hif, hbehind⟩⟩

/-- A scanner comes to an end on every source, without an offset that is out of range or inside of a
character, and with what is read of the source: a template, or a fault and the place of opening
braces to blame for it. For a choice that does not end these are the braces of the innermost one
that is open; for anything else, what stands before them can be read. -/
theorem scan_blames (source : String) :
    (∃ t, read source = .ok t ∧ Scanner.scan source = some (.ok t.nodes)) ∨
      ∃ front behind fault, source.toList = front ++ openBraces ++ behind ∧
        read source = .error (.malformed (Utf8.width front) fault) ∧
        Scanner.scan source = some (.error (Utf8.width front, .fault fault)) ∧
        ((fault = .ifWithoutEnd ∧ InnermostOpen source (Utf8.width front)) ∨
          (fault ≠ .ifWithoutEnd ∧ ReadsSoFar (String.ofList front))) := by
  obtain ⟨verdict, hscan, hagrees⟩ := Scanner.scan_agrees source
  rw [read]
  cases hread : readNodes source with
  | ok nodes =>
    rw [hread] at hagrees
    cases hagrees
    exact .inl ⟨_, rfl, hscan⟩
  | error e =>
    rw [hread] at hagrees
    cases hagrees with
    | error offset fault =>
      obtain ⟨front, behind, hsource, rfl, hblame⟩ := blame_of_readNodes hread
      exact .inr ⟨front, behind, fault, hsource, rfl, hscan, hblame⟩

end DaemonDialogue.Template
