import DaemonDialogue.Proofs.Template.Normal

/-!
# Reading what was written

The source of normal nodes is read as those nodes, and every source that can be read is
read as normal nodes. A source is read from left to right, whatever choices are open.
-/

namespace DaemonDialogue.Template

/-- The nodes once the rest of a source is read as well. -/
def Reading.readOn (r : Reading) (offset : Nat) (text : List Char) :
    Except Error (List Node) := do
  let r ← r.pieces (piecesFrom offset text).1
  match (piecesFrom offset text).2 with
  | some start => .error (.malformed start .unterminated)
  | none => r.finish

theorem readNodes_eq (source : String) :
    readNodes source = Reading.readOn {} 0 source.toList := rfl

/-- A reading that has some more nodes. -/
def Reading.with (r : Reading) (nodes : List Node) : Reading :=
  { r with current := nodes.reverse ++ r.current }

theorem Reading.readOn_nil (r : Reading) (offset : Nat) : r.readOn offset [] = r.finish := by
  rw [Reading.readOn, piecesFrom_of_text offset splitOpen_nil]
  rfl

theorem Reading.readOn_text (r : Reading) (offset : Nat) {text rest : List Char}
    (hne : text ≠ []) (hplain : Plain text)
    (hbrace : rest ≠ [] → text.getLast? ≠ some '\x7b') (hrest : AtTag rest) :
    ∃ next, r.readOn offset (text ++ rest) =
      (r.with [.text (String.ofList text)]).readOn next rest := by
  obtain ⟨next, hpieces⟩ := piecesFrom_text offset hne hplain hbrace hrest
  exact ⟨next, by rw [Reading.readOn, hpieces]; rfl⟩

theorem Reading.readOn_tag (r : Reading) (offset : Nat) {body : List Char} (rest : List Char)
    (hclose : Closes body) {r' : Reading} (htag : r.tag offset (Tag.ofBody body) = .ok r') :
    ∃ next, r.readOn offset (tagChars body ++ rest) = r'.readOn next rest := by
  obtain ⟨next, hpieces⟩ := piecesFrom_tag offset rest hclose
  refine ⟨next, ?_⟩
  rw [Reading.readOn, hpieces]
  simp only [Reading.pieces, htag]
  rfl

/-! ## From nodes to nodes -/

theorem atTag_tagChars (body rest : List Char) : AtTag (tagChars body ++ rest) :=
  .inr ⟨body ++ '\x7d' :: '\x7d' :: rest, by simp [tagChars, openBraces]⟩

theorem atTag_charsOf {nodes : List Node} {rest : List Char}
    (hnodes : ∀ other ∈ nodes.head?, ∀ text, other ≠ .text text) (hrest : AtTag rest) :
    AtTag (Node.charsOf nodes ++ rest) := by
  cases nodes with
  | nil => simpa [Node.charsOf] using hrest
  | cons node nodes =>
    rw [Node.charsOf, List.append_assoc]
    cases node with
    | text content => exact absurd rfl (hnodes _ rfl content)
    | function name => exact atTag_tagChars _ _
    | field name => exact atTag_tagChars _ _
    | action name argument => exact atTag_tagChars _ _
    | choice condition yes no =>
      simp only [Node.chars, List.append_assoc]
      exact atTag_tagChars _ _

theorem Reading.readOn_other (r : Reading) (offset : Nat) {body : List Char} (rest : List Char)
    {node : Node} (hclose : Closes body) (hbody : Tag.ofBody body = .other body)
    (hnode : placeholder body = .ok node) :
    ∃ next, r.readOn offset (tagChars body ++ rest) = (r.with [node]).readOn next rest := by
  refine r.readOn_tag offset rest hclose ?_
  rw [hbody, Reading.tag, hnode]
  rfl

theorem placeholder_function {name : List Char} (h : isName name = true) :
    placeholder name = .ok (.function (String.ofList name)) := by
  unfold placeholder
  split
  · cases h
  · simp [isName, isNameStart, Ascii.isLetter, Ascii.isUpper] at h
  · rw [if_pos h]

theorem closes_end : Closes "end".toList := closes_of_plain (by simp)

theorem closes_else : Closes "else".toList := closes_of_plain (by simp)

theorem closes_if {condition : List Char} (h : isName condition = true) :
    Closes ('i' :: 'f' :: ' ' :: condition) :=
  closes_of_plain (by simpa using inside_of_isName h)

theorem Reading.readOn_if (r : Reading) (offset : Nat) {condition : String}
    (h : isName condition.toList = true) (rest : List Char) :
    ∃ next, r.readOn offset (tagChars ('i' :: 'f' :: ' ' :: condition.toList) ++ rest) =
      Reading.readOn ⟨[], ⟨offset, condition, r.current, none⟩ :: r.opened⟩ next rest := by
  refine r.readOn_tag offset rest (closes_if h) ?_
  rw [ofBody_if h, Reading.tag, if_pos h, String.ofList_toList]

theorem Reading.readOn_else (r : Reading) (offset : Nat) (rest : List Char) {o : OpenChoice}
    {outer : List OpenChoice} (hopened : r.opened = o :: outer) (hyes : o.yes = none) :
    ∃ next, r.readOn offset (tagChars "else".toList ++ rest) =
      Reading.readOn ⟨[], { o with yes := some r.current.reverse } :: outer⟩ next rest := by
  refine r.readOn_tag offset rest closes_else ?_
  have hbody : Tag.ofBody "else".toList = .else_ := rfl
  rw [hbody, Reading.tag, hopened]
  simp [hyes]

/-- The choice whose parts are the nodes at hand and those before its `else`. -/
def OpenChoice.node (o : OpenChoice) (current : List Node) : Node :=
  match o.yes with
  | none => .choice o.condition current.reverse []
  | some yes => .choice o.condition yes current.reverse

theorem Reading.readOn_end (r : Reading) (offset : Nat) (rest : List Char) {o : OpenChoice}
    {outer : List OpenChoice} (hopened : r.opened = o :: outer) :
    ∃ next, r.readOn offset (tagChars "end".toList ++ rest) =
      Reading.readOn ⟨o.node r.current :: o.before, outer⟩ next rest := by
  refine r.readOn_tag offset rest closes_end ?_
  have hbody : Tag.ofBody "end".toList = .end_ := rfl
  rw [hbody, Reading.tag, hopened]
  rfl

/-- Are nodes read from their own source, in front of a tag? -/
def ReadsBack (nodes : List Node) : Prop :=
  ∀ (r : Reading) (offset : Nat) (rest : List Char), AtTag rest →
    ∃ next, r.readOn offset (Node.charsOf nodes ++ rest) = (r.with nodes).readOn next rest

theorem Reading.readOn_choice (r : Reading) (offset : Nat) (rest : List Char) {condition : String}
    {yes no : List Node} (h : isName condition.toList = true) (hyes : ReadsBack yes)
    (hno : ReadsBack no) :
    ∃ next, r.readOn offset ((Node.choice condition yes no).chars ++ rest) =
      (r.with [.choice condition yes no]).readOn next rest := by
  set o : OpenChoice := ⟨offset, condition, r.current, none⟩ with ho
  set inner : Reading := ⟨[], o :: r.opened⟩ with hinner
  have hwith : (inner.with yes).opened = o :: r.opened := rfl
  cases no with
  | nil =>
    have hsource : (Node.choice condition yes []).chars ++ rest =
        tagChars ('i' :: 'f' :: ' ' :: condition.toList) ++
          (Node.charsOf yes ++ (tagChars "end".toList ++ rest)) := by
      simp [Node.chars]
    obtain ⟨first, hfirst⟩ := r.readOn_if offset h
      (Node.charsOf yes ++ (tagChars "end".toList ++ rest))
    obtain ⟨second, hsecond⟩ := hyes inner first _ (atTag_tagChars "end".toList rest)
    obtain ⟨next, hnext⟩ := (inner.with yes).readOn_end second rest hwith
    refine ⟨next, ?_⟩
    rw [hsource, hfirst, hsecond, hnext]
    simp [OpenChoice.node, Reading.with, hinner, ho]
  | cons node no =>
    set no := node :: no with hcons
    have hsource : (Node.choice condition yes no).chars ++ rest =
        tagChars ('i' :: 'f' :: ' ' :: condition.toList) ++
          (Node.charsOf yes ++ (tagChars "else".toList ++
            (Node.charsOf no ++ (tagChars "end".toList ++ rest)))) := by
      simp [Node.chars, hcons]
    set past : Reading := ⟨[], { o with yes := some (inner.with yes).current.reverse } :: r.opened⟩
      with hpast
    obtain ⟨first, hfirst⟩ := r.readOn_if offset h (Node.charsOf yes ++
      (tagChars "else".toList ++ (Node.charsOf no ++ (tagChars "end".toList ++ rest))))
    obtain ⟨second, hsecond⟩ := hyes inner first _ (atTag_tagChars "else".toList
      (Node.charsOf no ++ (tagChars "end".toList ++ rest)))
    obtain ⟨third, hthird⟩ := (inner.with yes).readOn_else second
      (Node.charsOf no ++ (tagChars "end".toList ++ rest)) hwith rfl
    obtain ⟨fourth, hfourth⟩ := hno past third _ (atTag_tagChars "end".toList rest)
    obtain ⟨next, hnext⟩ := (past.with no).readOn_end fourth rest rfl
    refine ⟨next, ?_⟩
    rw [hsource, hfirst, hsecond, hthird, hfourth, hnext]
    simp [OpenChoice.node, Reading.with, hpast, hinner, ho]

mutual

theorem Node.Normal.readOn {node : Node} (h : node.Normal) (hnode : ∀ text, node ≠ .text text)
    (r : Reading) (offset : Nat) (rest : List Char) :
    ∃ next, r.readOn offset (node.chars ++ rest) = (r.with [node]).readOn next rest := by
  cases node with
  | text content => exact absurd rfl (hnode content)
  | function name =>
    obtain ⟨hname, hend, helse⟩ := h
    refine r.readOn_other offset rest (closes_of_plain (inside_of_isName hname))
      (ofBody_function hname hend helse) ?_
    rw [placeholder_function hname, String.ofList_toList]
  | field name =>
    have hname : isName name.toList = true := h
    have hlast : ∀ c ∈ name.toList.getLast?, isBlank c = false := fun _ hc =>
      not_isBlank_of_isName hname (List.mem_of_getLast? hc)
    refine r.readOn_other offset rest (closes_of_plain (by simpa using inside_of_isName hname))
      (ofBody_dotted (ne_nil_of_isName hname) hlast) ?_
    rw [placeholder, dotted_field hname, String.ofList_toList]
  | action name argument =>
    have hname : isName name.toList = true := h
    have hbefore : ∀ c ∈ '.' :: (name.toList ++ [' ']), c ≠ '"' ∧ c ≠ '\x7d' := by
      simpa [or_imp, forall_and] using inside_of_isName hname
    have hclose := closes_argument hbefore argument.toList
    have hbody : Tag.ofBody ('.' :: (name.toList ++ ' ' :: argumentChars argument.toList)) =
        .other ('.' :: (name.toList ++ ' ' :: argumentChars argument.toList)) := by
      refine ofBody_dotted (by simp) ?_
      rw [List.getLast?_append_cons, List.getLast?_cons_of_ne_nil (by simp [argumentChars]),
        getLast?_argumentChars]
      simp [isBlank]
    refine r.readOn_other offset rest (by simpa using hclose) hbody ?_
    rw [List.cons_append, placeholder, dotted_action hname, String.ofList_toList,
      String.ofList_toList]
  | choice condition yes no =>
    obtain ⟨hcondition, hyes, hno⟩ := h
    exact r.readOn_choice offset rest hcondition
      (fun r offset _ hrest => hyes.readOn r offset hrest (by simp))
      fun r offset _ hrest => hno.readOn r offset hrest (by simp)

theorem NormalList.readOn {final : Bool} {nodes : List Node} (h : NormalList final nodes)
    (r : Reading) (offset : Nat) {rest : List Char} (hrest : AtTag rest)
    (hfinal : final = true → rest = []) :
    ∃ next, r.readOn offset (Node.charsOf nodes ++ rest) = (r.with nodes).readOn next rest := by
  cases nodes with
  | nil => exact ⟨offset, rfl⟩
  | cons node nodes =>
    obtain ⟨hnode, hends, hnodes⟩ := h
    obtain ⟨middle, hmiddle⟩ : ∃ next, r.readOn offset
        (node.chars ++ (Node.charsOf nodes ++ rest)) =
          (r.with [node]).readOn next (Node.charsOf nodes ++ rest) := by
      by_cases htext : ∃ content, node = .text content
      · obtain ⟨content, rfl⟩ := htext
        obtain ⟨hbrace, hother⟩ := hends content rfl
        have hlast : Node.charsOf nodes ++ rest ≠ [] →
            content.toList.getLast? ≠ some '\x7b' := by
          rintro hne hopen
          obtain ⟨hlast, rfl⟩ := hbrace hopen
          exact hne (by rw [hfinal hlast]; rfl)
        have htext := r.readOn_text offset hnode.1 hnode.2 hlast (atTag_charsOf hother hrest)
        rwa [String.ofList_toList] at htext
      · exact hnode.readOn (fun content heq => htext ⟨content, heq⟩) r offset _
    obtain ⟨next, hnext⟩ := hnodes.readOn (r.with [node]) middle hrest hfinal
    refine ⟨next, ?_⟩
    rw [Node.charsOf, List.append_assoc, hmiddle, hnext]
    simp [Reading.with]

end

/-! ## From sources to nodes -/

/-- Are the nodes around an open choice normal? -/
structure OpenChoice.Normal (o : OpenChoice) : Prop where
  condition : isName o.condition.toList = true
  before : NormalList false o.before.reverse
  yes : ∀ yes, o.yes = some yes → NormalList false yes

/-- Are all nodes read so far normal? -/
structure Reading.Normal (final : Bool) (r : Reading) : Prop where
  current : NormalList final r.current.reverse
  opened : ∀ o ∈ r.opened, o.Normal

/-- Is the node that was read last no text? -/
def Reading.PastTag (r : Reading) : Prop :=
  ∀ node ∈ r.current.head?, ∀ text, node ≠ .text text

theorem normalList_cons {final : Bool} {current : List Node} {node : Node}
    (h : NormalList false current.reverse) (hnode : node.Normal)
    (htext : ∀ content, node ≠ .text content) : NormalList final (node :: current).reverse := by
  rw [List.reverse_cons]
  exact h.concat hnode (fun _ _ _ content _ => htext content)
    fun content heq => absurd heq (htext content)

theorem OpenChoice.Normal.node {o : OpenChoice} (h : o.Normal) {current : List Node}
    (hcurrent : NormalList false current.reverse) : (o.node current).Normal := by
  unfold OpenChoice.node
  cases hyes : o.yes with
  | none => exact ⟨h.condition, hcurrent, trivial⟩
  | some yes => exact ⟨h.condition, h.yes yes hyes, hcurrent⟩

theorem OpenChoice.node_ne_text (o : OpenChoice) (current : List Node) (content : String) :
    o.node current ≠ .text content := by
  unfold OpenChoice.node
  cases o.yes <;> simp

/-- What a tag that can be read makes of a reading. -/
inductive Reading.Step (r : Reading) (offset : Nat) : Tag → Reading → Prop
  | end_ {o : OpenChoice} {outer : List OpenChoice} (hopened : r.opened = o :: outer) :
    Step r offset .end_ ⟨o.node r.current :: o.before, outer⟩
  | else_ {o : OpenChoice} {outer : List OpenChoice} (hopened : r.opened = o :: outer) :
    Step r offset .else_ ⟨[], { o with yes := some r.current.reverse } :: outer⟩
  | if_ {condition : List Char} (hname : isName condition = true) :
    Step r offset (.if_ condition)
      ⟨[], ⟨offset, String.ofList condition, r.current, none⟩ :: r.opened⟩
  | other {body : List Char} {node : Node} (hnode : placeholder body = .ok node) :
    Step r offset (.other body) { r with current := node :: r.current }

theorem Reading.step_of_tag {r r' : Reading} {offset : Nat} {t : Tag}
    (h : r.tag offset t = .ok r') : r.Step offset t r' := by
  cases t with
  | end_ =>
    rw [Reading.tag] at h
    split at h
    · cases h
    · next o outer hopened =>
      obtain rfl := Except.ok.inj h
      exact .end_ hopened
  | else_ =>
    rw [Reading.tag] at h
    split at h
    · cases h
    · next o outer hopened =>
      split_ifs at h
      obtain rfl := Except.ok.inj h
      exact .else_ hopened
  | if_ condition =>
    rw [Reading.tag] at h
    split_ifs at h with hname
    obtain rfl := Except.ok.inj h
    exact .if_ hname
  | other body =>
    rw [Reading.tag] at h
    cases hnode : placeholder body with
    | error fault => simp [hnode] at h
    | ok node =>
      rw [hnode] at h
      obtain rfl := Except.ok.inj h
      exact .other hnode

theorem placeholder_ne_text {body : List Char} {node : Node} (h : placeholder body = .ok node)
    (content : String) : node ≠ .text content := by
  unfold placeholder at h
  split at h
  · cases h
  · exact (dotted_normal h).2 content
  · split_ifs at h
    obtain rfl := Except.ok.inj h
    simp

theorem Reading.pastTag_of_tag {r r' : Reading} {offset : Nat} {t : Tag}
    (h : r.tag offset t = .ok r') : r'.PastTag := by
  cases step_of_tag h with
  | end_ hopened =>
    rintro node hnode
    obtain rfl := Option.some.inj hnode
    exact OpenChoice.node_ne_text _ _
  | else_ hopened => simp [Reading.PastTag]
  | if_ hname => simp [Reading.PastTag]
  | other hplaceholder =>
    rintro node hnode
    obtain rfl := Option.some.inj hnode
    exact placeholder_ne_text hplaceholder

theorem Reading.Normal.tag {r r' : Reading} (h : r.Normal false) {offset : Nat}
    {body : List Char} (htag : r.tag offset (Tag.ofBody body) = .ok r') : r'.Normal false := by
  generalize hkind : Tag.ofBody body = t at htag
  cases step_of_tag htag with
  | @end_ o outer hopened =>
    have ho : o.Normal := h.opened o (by simp [hopened])
    exact ⟨normalList_cons ho.before (ho.node h.current) (o.node_ne_text _),
      fun o' ho' => h.opened o' (by simp [hopened, ho'])⟩
  | @else_ o outer hopened =>
    have ho : o.Normal := h.opened o (by simp [hopened])
    refine ⟨trivial, fun o' ho' => ?_⟩
    rcases List.mem_cons.1 ho' with rfl | ho'
    · refine ⟨ho.condition, ho.before, fun yes hyes => ?_⟩
      obtain rfl := Option.some.inj hyes
      exact h.current
    · exact h.opened o' (by simp [hopened, ho'])
  | if_ hcondition =>
    refine ⟨trivial, fun o ho => ?_⟩
    rcases List.mem_cons.1 ho with rfl | ho
    · exact ⟨by simpa using hcondition, h.current, by simp⟩
    · exact h.opened o ho
  | other hnode =>
    obtain ⟨hend, helse⟩ := ofBody_other hkind
    obtain ⟨hnormal, htext⟩ := placeholder_normal hnode hend helse
    exact ⟨normalList_cons h.current hnormal htext, h.opened⟩

theorem Reading.Normal.pieces {r r' : Reading} {pieces : List Piece} (h : r.Normal false)
    (hpast : r.PastTag ∨ ∀ other ∈ pieces.head?, ∀ text, other ≠ .text text)
    (hfits : Fits pieces) (hread : r.pieces pieces = .ok r') : r'.Normal true := by
  induction pieces generalizing r with
  | nil =>
    obtain rfl := Except.ok.inj hread
    exact ⟨h.current.final, h.opened⟩
  | cons piece rest ih =>
    cases piece with
    | tag offset body =>
      rw [Reading.pieces] at hread
      split at hread
      · next r₁ htag => exact ih (h.tag htag) (.inl (pastTag_of_tag htag)) hfits hread
      · cases hread
    | text content =>
      obtain ⟨hne, hplain, hbrace, hother, hrest⟩ := hfits
      have hpast : r.PastTag := by
        rcases hpast with hpast | hpast
        · exact hpast
        · exact absurd rfl (hpast _ rfl content)
      have hnode : (Node.text (String.ofList content)).Normal := by
        simpa [Node.Normal] using ⟨hne, hplain⟩
      have hmeet : ∀ last ∈ r.current.reverse.getLast?, ∀ text other, last = .text text →
          Node.text (String.ofList content) ≠ .text other := by
        intro last hlast text _ heq
        exact absurd heq (hpast last (by simpa using hlast) text)
      cases rest with
      | nil =>
        obtain rfl := Except.ok.inj hread
        refine ⟨?_, h.opened⟩
        rw [List.reverse_cons]
        exact h.current.concat hnode hmeet (by simp)
      | cons next rest =>
        refine ih (r := { r with current := .text (String.ofList content) :: r.current })
          ⟨?_, h.opened⟩ (.inr hother) hrest hread
        rw [List.reverse_cons]
        refine h.current.concat hnode hmeet fun text heq hopen => ?_
        obtain rfl := Node.text.inj heq
        exact absurd (by simpa using hopen) (hbrace (by simp))

theorem Reading.eq_of_readOn {r : Reading} {offset : Nat} {text : List Char} {nodes : List Node}
    (h : r.readOn offset text = .ok nodes) :
    ∃ r', r.pieces (piecesFrom offset text).1 = .ok r' ∧ nodes = r'.current.reverse := by
  rw [Reading.readOn] at h
  cases hread : r.pieces (piecesFrom offset text).1 with
  | error e =>
    rw [hread] at h
    cases h
  | ok r' =>
    rw [hread] at h
    refine ⟨r', rfl, ?_⟩
    cases hend : (piecesFrom offset text).2 with
    | some start =>
      rw [hend] at h
      cases h
    | none =>
      rw [hend] at h
      change r'.finish = .ok nodes at h
      unfold Reading.finish at h
      split at h
      · exact (Except.ok.inj h).symm
      · cases h

theorem readNodes_normal {source : String} {nodes : List Node} (h : readNodes source = .ok nodes) :
    NormalList true nodes := by
  obtain ⟨r, hread, rfl⟩ := Reading.eq_of_readOn (readNodes_eq source ▸ h)
  have hempty : Reading.Normal false {} := ⟨trivial, by simp⟩
  exact (hempty.pieces (.inl (by simp [Reading.PastTag])) (piecesFrom_fits 0 _) hread).current

/-! ## Round trips -/

theorem readNodes_print {nodes : List Node} (h : NormalList true nodes) :
    readNodes (print nodes) = .ok nodes := by
  obtain ⟨next, hread⟩ : ∃ next, Reading.readOn {} 0 (Node.charsOf nodes ++ []) =
      (Reading.with {} nodes).readOn next [] := h.readOn {} 0 (.inl rfl) fun _ => rfl
  rw [readNodes_eq, print, String.toList_ofList, ← List.append_nil (Node.charsOf nodes), hread,
    Reading.readOn_nil]
  simp [Reading.finish, Reading.with]

/-- Normal nodes are read from what is written of them, and nothing else is ever read. -/
theorem read_print :
    (∀ nodes, NormalList true nodes → read (print nodes) = .ok ⟨print nodes, nodes⟩) ∧
      ∀ source t, read source = .ok t → t.source = source ∧ NormalList true t.nodes ∧
        read (print t.nodes) = .ok ⟨print t.nodes, t.nodes⟩ := by
  have hread : ∀ nodes, NormalList true nodes → read (print nodes) = .ok ⟨print nodes, nodes⟩ := by
    intro nodes h
    rw [read, readNodes_print h]
    rfl
  refine ⟨hread, fun source t h => ?_⟩
  unfold read at h
  cases hnodes : readNodes source with
  | error e => simp [hnodes] at h
  | ok nodes =>
    rw [hnodes] at h
    obtain rfl := Except.ok.inj h
    have hnormal := readNodes_normal hnodes
    exact ⟨rfl, hnormal, hread nodes hnormal⟩

/-- Braces and quotes in an argument, a choice named like a tag, and a brace at the end. -/
theorem read_print_nested :
    (read ("\x7b\x7bif end\x7d\x7d\x7b\x7b.say \"\x7d\x7d \\\" \x7b\x7b\"\x7d\x7d" ++
      "\x7b\x7belse\x7d\x7da\x7b\x7bend\x7d\x7d\x7b")).map (·.nodes) =
      .ok [.choice "end" [.action "say" "\x7d\x7d \" \x7b\x7b"] [.text "a"], .text "\x7b"] := by
  have hread := read_print.1
    [.choice "end" [.action "say" "\x7d\x7d \" \x7b\x7b"] [.text "a"], .text "\x7b"] (by
      simp [NormalList, Node.Normal, EndsAt]
      decide)
  exact congrArg (·.map (·.nodes)) hread

end DaemonDialogue.Template
