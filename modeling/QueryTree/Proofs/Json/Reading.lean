import QueryTree.Json.Reader
import QueryTree.Proofs.Json.Scanning

/-!
# QueryTree.Proofs.Json.Reading

What the reading machine makes of tokens, and how deep it goes.

The limit of the reader counts the collections with content, so the measure of a
document is `filledDepth`, where empty collections count nothing.

* `run_tokensOf` — from the tokens of a document within the limit the machine
  delivers that document, whatever collections are open around it;
* `filledDepth_le_of_read` — whatever is read, from any text, is within the limit;
* `read_write` — what was written is read back.
-/

namespace QueryTree

namespace Document

/-! ## the depth that the reader counts -/

mutual

/-- The nesting of the collections with content. -/
def filledDepth : Document → Nat
  | .list (d :: ds) => 1 + max (filledDepth d) (filledDepthOfItems ds)
  | .map ((_, d) :: es) => 1 + max (filledDepth d) (filledDepthOfEntries es)
  | _ => 0

/-- The deepest nesting in several documents. -/
def filledDepthOfItems : List Document → Nat
  | [] => 0
  | d :: ds => max (filledDepth d) (filledDepthOfItems ds)

/-- The deepest nesting in the values of a mapping. -/
def filledDepthOfEntries : List (String × Document) → Nat
  | [] => 0
  | (_, d) :: es => max (filledDepth d) (filledDepthOfEntries es)

end

theorem filledDepthOfItems_le_iff {ds : List Document} {n : Nat} :
    filledDepthOfItems ds ≤ n ↔ ∀ d ∈ ds, d.filledDepth ≤ n := by
  induction ds with
  | nil => simp [filledDepthOfItems]
  | cons d ds ih => rw [filledDepthOfItems, Nat.max_le, ih, List.forall_mem_cons]

theorem filledDepthOfEntries_le_iff {es : List (String × Document)} {n : Nat} :
    filledDepthOfEntries es ≤ n ↔ ∀ e ∈ es, e.2.filledDepth ≤ n := by
  induction es with
  | nil => simp [filledDepthOfEntries]
  | cons e es ih => rw [filledDepthOfEntries, Nat.max_le, ih, List.forall_mem_cons]

/-- A sequence nests one deeper than each of its items. -/
theorem filledDepth_list_le {ds : List Document} {n : Nat} (h : ∀ d ∈ ds, d.filledDepth + 1 ≤ n) :
    filledDepth (.list ds) ≤ n := by
  cases ds with
  | nil => exact Nat.zero_le n
  | cons d ds =>
      have hd := h d List.mem_cons_self
      have hds : filledDepthOfItems ds ≤ n - 1 := filledDepthOfItems_le_iff.mpr fun d' hd' =>
        Nat.le_sub_of_add_le (h d' (List.mem_cons_of_mem d hd'))
      rw [filledDepth]
      omega

/-- A mapping nests one deeper than each of its values. -/
theorem filledDepth_map_le {es : List (String × Document)} {n : Nat}
    (h : ∀ e ∈ es, e.2.filledDepth + 1 ≤ n) : filledDepth (.map es) ≤ n := by
  cases es with
  | nil => exact Nat.zero_le n
  | cons e es =>
      have he := h e List.mem_cons_self
      have hes : filledDepthOfEntries es ≤ n - 1 := filledDepthOfEntries_le_iff.mpr fun e' he' =>
        Nat.le_sub_of_add_le (h e' (List.mem_cons_of_mem e he'))
      rw [filledDepth]
      omega

theorem filledDepth_lt_of_mem_list {ds : List Document} {d : Document} (h : d ∈ ds) :
    d.filledDepth < filledDepth (.list ds) := by
  cases ds with
  | nil => cases h
  | cons c cs =>
      have hle := filledDepthOfItems_le_iff.mp (Nat.le_refl (filledDepthOfItems (c :: cs))) d h
      rw [filledDepthOfItems] at hle
      rw [filledDepth]
      omega

/-- A sequence whose items each nest no deeper than some item of another nests no deeper than that. -/
theorem filledDepth_list_le_list {cs ds : List Document}
    (h : ∀ c ∈ cs, ∃ d ∈ ds, c.filledDepth ≤ d.filledDepth) :
    filledDepth (.list cs) ≤ filledDepth (.list ds) := by
  refine filledDepth_list_le fun c hc => ?_
  obtain ⟨d, hd, hle⟩ := h c hc
  exact Nat.lt_of_le_of_lt hle (filledDepth_lt_of_mem_list hd)

theorem filledDepth_lt_of_mem_map {es : List (String × Document)} {k : String} {d : Document}
    (h : (k, d) ∈ es) : d.filledDepth < filledDepth (.map es) := by
  cases es with
  | nil => cases h
  | cons e es =>
      have hle := filledDepthOfEntries_le_iff.mp (Nat.le_refl (filledDepthOfEntries (e :: es))) (k, d) h
      rw [filledDepthOfEntries] at hle
      rw [filledDepth]
      exact Nat.lt_of_le_of_lt hle (Nat.lt_add_of_pos_left Nat.one_pos)

mutual

/-- An empty collection may stand one deeper than those with content, and no more. -/
theorem depth_le_filledDepth : ∀ d : Document, d.depth ≤ d.filledDepth + 1
  | .null | .bool _ | .int _ | .float _ | .text _ => by simp [depth]
  | .list [] => by simp [depth, depthOfItems]
  | .list (d :: ds) => by
      have hd := depth_le_filledDepth d
      have hds := depthOfItems_le ds
      rw [depth, depthOfItems, filledDepth]
      omega
  | .map [] => by simp [depth, depthOfEntries]
  | .map ((_, d) :: es) => by
      have hd := depth_le_filledDepth d
      have hes := depthOfEntries_le es
      rw [depth, depthOfEntries, filledDepth]
      omega

theorem depthOfItems_le : ∀ ds : List Document, depthOfItems ds ≤ filledDepthOfItems ds + 1
  | [] => by simp [depthOfItems]
  | d :: ds => by
      have hd := depth_le_filledDepth d
      have hds := depthOfItems_le ds
      rw [depthOfItems, filledDepthOfItems]
      omega

theorem depthOfEntries_le :
    ∀ es : List (String × Document), depthOfEntries es ≤ filledDepthOfEntries es + 1
  | [] => by simp [depthOfEntries]
  | (_, d) :: es => by
      have hd := depth_le_filledDepth d
      have hes := depthOfEntries_le es
      rw [depthOfEntries, filledDepthOfEntries]
      omega

end

end Document

namespace Json

/-! ## reading the tokens of a document -/

section Reading

variable {limit : Nat}

theorem Reading.run_cons {r r' : Reading} {t : Token} (h : r.step limit t = some r') (ts : List Token) :
    r.run limit (t :: ts) = r'.run limit ts := by
  rw [run, h]

/-- The first value of a sequence is read like any other, if the sequence may have content. -/
theorem run_firstValue {stack : List Open} (hstack : stack.length ≤ limit) (d : Document)
    (rest : List Token) :
    Reading.run limit ⟨stack, .firstValue⟩ (tokensOf d ++ rest) =
      Reading.run limit ⟨stack, .value⟩ (tokensOf d ++ rest) := by
  have hstep (t : Token) (ht : t ≠ .closeList) :
      Reading.step limit ⟨stack, .firstValue⟩ t = Reading.step limit ⟨stack, .value⟩ t := by
    cases t with
    | closeList => exact absurd rfl ht
    | _ => exact if_pos hstack
  obtain ⟨t, ts, hts, ht⟩ : ∃ t ts, tokensOf d ++ rest = t :: ts ∧ t ≠ .closeList := by
    match d with
    | .null | .bool _ | .int _ | .float _ | .text _ | .list [] | .map [] | .list (_ :: _)
    | .map ((_, _) :: _) => exact ⟨_, _, rfl, Token.noConfusion⟩
  rw [hts, Reading.run, hstep t ht, Reading.run]

theorem step_close_list (done : List Document) (stack : List Open) :
    Reading.step limit ⟨.list done :: stack, .next⟩ .closeList =
      some (deliver (.list done.reverse) stack) := rfl

theorem step_close_map (done : List (String × Document)) (key : String) (stack : List Open) :
    Reading.step limit ⟨.map done key :: stack, .next⟩ .closeMap =
      some (deliver (.map done.reverse) stack) := rfl

mutual

/-- **Reading the tokens of a document** delivers it. -/
theorem run_tokensOf :
    ∀ (d : Document) (stack : List Open) (rest : List Token), stack.length + d.filledDepth ≤ limit →
      Reading.run limit ⟨stack, .value⟩ (tokensOf d ++ rest) = (deliver d stack).run limit rest
  | .null, _, _, _ | .bool _, _, _, _ | .int _, _, _, _ | .float _, _, _, _ | .text _, _, _, _
  | .list [], _, _, _ | .map [], _, _, _ => rfl
  | .list (d :: ds), stack, rest, h => by
      rw [Document.filledDepth] at h
      have hopen : Reading.step limit ⟨stack, .value⟩ .openList = some ⟨.list [] :: stack, .firstValue⟩ := rfl
      have hlength : (Open.list [] :: stack).length + d.filledDepth ≤ limit := by
        rw [List.length_cons]; omega
      have hitems := run_itemTokens ds [d] stack rest (by omega)
      simp only [tokensOf, List.cons_append, List.append_assoc]
      rw [Reading.run_cons hopen, run_firstValue (by omega), run_tokensOf d _ _ hlength]
      exact hitems
  | .map ((k, d) :: es), stack, rest, h => by
      rw [Document.filledDepth] at h
      have hopen : Reading.step limit ⟨stack, .value⟩ .openMap = some ⟨.map [] "" :: stack, .firstKey⟩ := rfl
      have hkey : Reading.step limit ⟨.map [] "" :: stack, .firstKey⟩ (.text k) =
          some ⟨.map [] k :: stack, .colon⟩ := if_pos (by rw [List.length_cons]; omega)
      have hcolon : Reading.step limit ⟨.map [] k :: stack, .colon⟩ .colon =
          some ⟨.map [] k :: stack, .value⟩ := rfl
      have hlength : (Open.map [] k :: stack).length + d.filledDepth ≤ limit := by
        rw [List.length_cons]; omega
      have hentries := run_entryTokens es [(k, d)] k stack rest (by omega)
      simp only [tokensOf, List.cons_append, List.append_assoc]
      rw [Reading.run_cons hopen, Reading.run_cons hkey, Reading.run_cons hcolon, run_tokensOf d _ _ hlength]
      exact hentries

theorem run_itemTokens :
    ∀ (ds done : List Document) (stack : List Open) (rest : List Token),
      stack.length + 1 + Document.filledDepthOfItems ds ≤ limit →
      Reading.run limit ⟨.list done :: stack, .next⟩ (itemTokens ds ++ ([.closeList] ++ rest)) =
        (deliver (.list (done.reverse ++ ds)) stack).run limit rest
  | [], done, stack, rest, _ => by
      rw [List.append_nil]
      exact Reading.run_cons (step_close_list done stack) rest
  | d :: ds, done, stack, rest, h => by
      rw [Document.filledDepthOfItems] at h
      have hcomma : Reading.step limit ⟨.list done :: stack, .next⟩ .comma =
          some ⟨.list done :: stack, .value⟩ := rfl
      have hlength : (Open.list done :: stack).length + d.filledDepth ≤ limit := by
        rw [List.length_cons]; omega
      have hitems := run_itemTokens ds (d :: done) stack rest (by omega)
      rw [List.reverse_cons, List.append_assoc, List.singleton_append] at hitems
      simp only [itemTokens, List.cons_append, List.append_assoc]
      rw [Reading.run_cons hcomma, run_tokensOf d _ _ hlength]
      exact hitems

theorem run_entryTokens :
    ∀ (es done : List (String × Document)) (key : String) (stack : List Open) (rest : List Token),
      stack.length + 1 + Document.filledDepthOfEntries es ≤ limit →
      Reading.run limit ⟨.map done key :: stack, .next⟩ (entryTokens es ++ ([.closeMap] ++ rest)) =
        (deliver (.map (done.reverse ++ es)) stack).run limit rest
  | [], done, key, stack, rest, _ => by
      rw [List.append_nil]
      exact Reading.run_cons (step_close_map done key stack) rest
  | (k, d) :: es, done, key, stack, rest, h => by
      rw [Document.filledDepthOfEntries] at h
      have hcomma : Reading.step limit ⟨.map done key :: stack, .next⟩ .comma =
          some ⟨.map done key :: stack, .key⟩ := rfl
      have hkey : Reading.step limit ⟨.map done key :: stack, .key⟩ (.text k) =
          some ⟨.map done k :: stack, .colon⟩ := rfl
      have hcolon : Reading.step limit ⟨.map done k :: stack, .colon⟩ .colon =
          some ⟨.map done k :: stack, .value⟩ := rfl
      have hlength : (Open.map done k :: stack).length + d.filledDepth ≤ limit := by
        rw [List.length_cons]; omega
      have hentries := run_entryTokens es ((k, d) :: done) k stack rest (by omega)
      rw [List.reverse_cons, List.append_assoc, List.singleton_append] at hentries
      simp only [entryTokens, List.cons_append, List.append_assoc]
      rw [Reading.run_cons hcomma, Reading.run_cons hkey, Reading.run_cons hcolon,
        run_tokensOf d _ _ hlength]
      exact hentries

end

/-! ## how deep the machine goes -/

/-- What an open collection holds so far. -/
def Open.held : Open → List Document
  | .list done => done
  | .map done _ => done.map Prod.snd

/-- What is held in open collections stays within the limit where it stands. -/
def StackFits (limit : Nat) : List Open → Prop
  | [] => True
  | o :: stack => (∀ d ∈ o.held, stack.length + 1 + d.filledDepth ≤ limit) ∧ StackFits limit stack

/-- How many collections may be open: one more than the limit only as long as the innermost is empty. -/
def Expect.Fits (limit height : Nat) : Expect → Prop
  | .firstValue | .firstKey => height ≤ limit + 1
  | .done d => d.filledDepth ≤ limit
  | _ => height ≤ limit

/-- The invariant of the machine. -/
structure Reading.Fits (limit : Nat) (r : Reading) : Prop where
  stack : StackFits limit r.stack
  expect : r.expect.Fits limit r.stack.length

variable {stack : List Open} {r r' : Reading} {t : Token}

theorem fits_deliver (hs : StackFits limit stack) {d : Document}
    (hd : stack.length + d.filledDepth ≤ limit) : (deliver d stack).Fits limit := by
  match stack, hs with
  | [], _ =>
      rw [List.length_nil, Nat.zero_add] at hd
      exact ⟨trivial, hd⟩
  | .list done :: rest, ⟨hheld, hrest⟩ =>
      rw [List.length_cons] at hd
      refine ⟨⟨?_, hrest⟩, Nat.le_of_add_right_le hd⟩
      exact List.forall_mem_cons.mpr ⟨hd, hheld⟩
  | .map done key :: rest, ⟨hheld, hrest⟩ =>
      rw [List.length_cons] at hd
      refine ⟨⟨?_, hrest⟩, Nat.le_of_add_right_le hd⟩
      exact List.forall_mem_cons.mpr ⟨hd, hheld⟩

theorem fits_readValue (hs : StackFits limit stack) (hlength : stack.length ≤ limit)
    (h : readValue stack t = some r) : r.Fits limit := by
  cases t with
  | openList | openMap =>
      cases h
      exact ⟨⟨by simp [Open.held], hs⟩, Nat.succ_le_succ hlength⟩
  | text _ | int _ | float _ | bool _ | null =>
      cases h
      exact fits_deliver hs hlength
  | closeList | closeMap | comma | colon => cases h

theorem fits_readKey (hs : StackFits limit stack) (hlength : stack.length ≤ limit)
    (h : readKey stack t = some r) : r.Fits limit := by
  unfold readKey at h
  split at h
  · cases h
    exact ⟨hs, hlength⟩
  · cases h

/-- A collection that is closed nests one deeper than what it holds, or is empty. -/
theorem fits_close (hs : StackFits limit stack) (hlength : stack.length ≤ limit + 1)
    (h : close stack t = some r) : r.Fits limit := by
  unfold close at h
  split at h
  · next done rest =>
      cases h
      obtain ⟨hheld, hrest⟩ := hs
      rw [List.length_cons] at hlength
      -- nothing held means depth zero, where one collection above the limit does no harm
      have hdepth : Document.filledDepth (.list done.reverse) ≤ limit - rest.length := by
        refine Document.filledDepth_list_le fun d hd => ?_
        have := hheld d (List.mem_reverse.mp hd)
        omega
      exact fits_deliver hrest (by omega)
  · next done key rest =>
      cases h
      obtain ⟨hheld, hrest⟩ := hs
      rw [List.length_cons] at hlength
      have hdepth : Document.filledDepth (.map done.reverse) ≤ limit - rest.length := by
        refine Document.filledDepth_map_le fun e he => ?_
        have := hheld e.2 (List.mem_map_of_mem (List.mem_reverse.mp he))
        omega
      exact fits_deliver hrest (by omega)
  · cases h

/-- One token keeps the invariant. -/
theorem fits_step (hr : r.Fits limit) (h : r.step limit t = some r') : r'.Fits limit := by
  obtain ⟨stack, expect⟩ := r
  obtain ⟨hs, he⟩ := hr
  unfold Reading.step at h
  cases expect with
  | value => exact fits_readValue hs he h
  | firstValue =>
      simp only at h
      split at h
      · exact fits_close hs he h
      · split at h
        · next hlength => exact fits_readValue hs hlength h
        · cases h
  | key => exact fits_readKey hs he h
  | firstKey =>
      simp only at h
      split at h
      · exact fits_close hs he h
      · split at h
        · next hlength => exact fits_readKey hs hlength h
        · cases h
  | colon =>
      simp only at h
      split at h
      · cases h
        exact ⟨hs, he⟩
      · cases h
  | next =>
      simp only at h
      split at h
      · cases h
        exact ⟨hs, he⟩
      · cases h
        exact ⟨hs, he⟩
      · exact fits_close hs (Nat.le_succ_of_le he) h
  | done d => cases h

theorem fits_run {ts : List Token} (hr : r.Fits limit) (h : r.run limit ts = some r') :
    r'.Fits limit := by
  induction ts generalizing r with
  | nil =>
      cases h
      exact hr
  | cons t ts ih =>
      rw [Reading.run] at h
      split at h
      · cases h
      · next r₁ hstep => exact ih (fits_step hr hstep) h

/-- **The limit of the reader**: whatever is read is within it. -/
theorem filledDepth_le_of_read {cs : List Char} {d : Document} (h : read limit cs = some d) :
    d.filledDepth ≤ limit := by
  unfold read at h
  split at h
  · cases h
  · next ts _ =>
      split at h
      · next d' hrun =>
          cases h
          have hstart : Reading.Fits limit ⟨[], .value⟩ := ⟨trivial, Nat.zero_le limit⟩
          exact (fits_run hstart hrun).expect
      · cases h

end Reading

/-- **Reading what was written**: a document whose values are texts is read back, if it is within the
limit. -/
theorem read_write {limit : Nat} {d : Document} (ht : isTextual d = true) (hd : d.filledDepth ≤ limit) :
    read limit (write d).toList = some d := by
  have hrun := run_tokensOf d [] [] (by simpa using hd)
  rw [List.append_nil] at hrun
  rw [read, write, String.toList_ofList, emits_tokens (emits_chars d 0 ht)]
  simp only [hrun, Reading.run, deliver]

end Json

end QueryTree
