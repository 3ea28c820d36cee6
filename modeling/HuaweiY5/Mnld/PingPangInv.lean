import HuaweiY5.Mnld.PingPang

/-!
# `Mnld.PingPangInv` — which thread owns which buffer, and what is in it

The producer owns the `WRITING` buffer, the writer a `READABLE` or `READING` one, and a `WRITABLE` buffer is
the producer's to take. Each thread's part of the invariant says what holds where that thread is, and is kept
by the steps of both: the writer's steps leave the producer's buffers alone (`WriterMoves`), the producer's
leave alone what the writer has found.
-/

namespace HuaweiY5.Mnld.DbgLog

open PingPang

/-! ## The writer's part of the invariant -/

/-- The writer is between taking the buffer and giving it back. -/
def Reads : WriterPc → Side → Prop
  | .fwrite x, y | .wipe x, y | .zero x, y | .giveBack x, y => x = y
  | _, _ => False

/-- The writer has found the buffer `READABLE` and not yet taken it. -/
def Found : WriterPc → Side → Prop
  | .others x, y | .lenth x, y | .take x, y => x = y
  | _, _ => False

/-- What the writer relies on: only it marks buffers `READING`, what it found `READABLE` stays so, and such a
    buffer is not empty. -/
structure WriterOk (p : PingPang) (w : WriterPc) : Prop where
  reading : ∀ y, p.state y = .reading ↔ Reads w y
  found : ∀ y, Found w y → p.state y = .readable
  lenth : ∀ y, p.state y = .readable → p.lenthToWrite y ≠ 0

/-- The part of a buffer that is to be written to the file. -/
def unwritten (p : PingPang) (w : WriterPc) (x : Side) : Msg :=
  match p.state x with
  | .readable => content (p.memory x) (p.lenthToWrite x)
  | .reading => if w = .fwrite x then content (p.memory x) (p.lenthToWrite x) else []
  | _ => []

variable {p : PingPang} {w w' : WriterPc} {x : Side}

theorem unwritten_of_state {p' : PingPang} (hstate : p'.state x = p.state x) (hmem : p'.memory x = p.memory x)
    (hlen : p'.lenthToWrite x = p.lenthToWrite x) (hw : w' = .fwrite x ↔ w = .fwrite x) :
    unwritten p' w' x = unwritten p w x := by
  unfold unwritten
  rw [hstate, hmem, hlen]
  simp [hw]

theorem unwritten_writable (h : p.state x = .writable) : unwritten p w x = [] := by
  unfold unwritten; rw [h]

theorem unwritten_writing (h : p.state x = .writing) : unwritten p w x = [] := by
  unfold unwritten; rw [h]

theorem unwritten_readable (h : p.state x = .readable) : unwritten p w x = content (p.memory x) (p.lenthToWrite x) := by
  unfold unwritten; rw [h]

/-- What a step of the writer leaves to the producer: the buffers that are `WRITING` or `WRITABLE`, and what
    is in the file and still to be written. -/
structure WriterMoves (p : PingPang) (w : WriterPc) (p' : PingPang) (w' : WriterPc) : Prop where
  nextWrite : p'.nextWrite = p.nextWrite
  pointers : p'.pointers = p.pointers
  live : p'.live = p.live
  numLoose : p'.numLoose = p.numLoose
  writing : ∀ y, p'.state y = .writing ↔ p.state y = .writing
  writable : ∀ y, p.state y = .writable → p'.state y = .writable
  memory : ∀ y, p.state y = .writing → p'.memory y = p.memory y
  lenth : ∀ y, p.state y = .writing → p'.lenthToWrite y = p.lenthToWrite y
  unwritten : ∀ y, p.state y = .writing → p'.file ++ unwritten p' w' y.other = p.file ++ unwritten p w y.other

theorem WriterMoves.test (hw : ∀ x, w ≠ .fwrite x) (hw' : ∀ x, w' ≠ .fwrite x) : WriterMoves p w p w' where
  nextWrite := rfl
  pointers := rfl
  live := rfl
  numLoose := rfl
  writing := fun _ => Iff.rfl
  writable := fun _ h => h
  memory := fun _ _ => rfl
  lenth := fun _ _ => rfl
  unwritten := by
    intro y _
    have hsame : w' = .fwrite y.other ↔ w = .fwrite y.other := ⟨fun h => absurd h (hw' _), fun h => absurd h (hw _)⟩
    rw [unwritten_of_state rfl rfl rfl hsame]

theorem WriterPc.elseBranch_ne_fwrite (x y : Side) : WriterPc.elseBranch x ≠ .fwrite y := by
  cases x <;> exact WriterPc.noConfusion

theorem WriterMoves.branch {c : Prop} [Decidable c] (x : Side) (hw : ∀ y, w ≠ .fwrite y) (hw' : ∀ y, w' ≠ .fwrite y) :
    WriterMoves p w p (if c then w' else .elseBranch x) := by
  split
  · exact .test hw hw'
  · exact .test hw (WriterPc.elseBranch_ne_fwrite x)

theorem WriterMoves.of_side {p' : PingPang} (hx : p.state x = .readable ∨ p.state x = .reading)
    (hnext : p'.nextWrite = p.nextWrite) (hpointers : p'.pointers = p.pointers) (hlive : p'.live = p.live)
    (hloose : p'.numLoose = p.numLoose) (hx' : p'.state x ≠ .writing) (hstate : ∀ y, y ≠ x → p'.state y = p.state y)
    (hmem : ∀ y, y ≠ x → p'.memory y = p.memory y) (hlen : ∀ y, y ≠ x → p'.lenthToWrite y = p.lenthToWrite y)
    (hfile : p'.file ++ DbgLog.unwritten p' w' x = p.file ++ DbgLog.unwritten p w x) : WriterMoves p w p' w' := by
  have hne : ∀ y, p.state y = .writing ∨ p.state y = .writable → y ≠ x := by
    rintro y hy rfl
    rcases hx with hx | hx <;> rcases hy with hy | hy <;> rw [hx] at hy <;> exact BufferState.noConfusion hy
  refine ⟨hnext, hpointers, hlive, hloose, fun y => ?_, fun y hy => ?_, fun y hy => hmem y (hne y (.inl hy)),
    fun y hy => hlen y (hne y (.inl hy)), fun y hy => ?_⟩
  · by_cases hyx : y = x
    · subst hyx
      exact ⟨fun h => absurd h hx', fun h => absurd rfl (hne y (.inl h))⟩
    · rw [hstate y hyx]
  · rw [hstate y (hne y (.inr hy))]
    exact hy
  · rw [Side.other_of_ne (hne y (.inl hy))]
    exact hfile

/-- Every step of the writer keeps to its part. -/
theorem writerStep_moves (h : WriterOk p w) : WriterMoves p w (writerStep p w).1 (writerStep p w).2 := by
  have hreading : ∀ x, Reads w x → p.state x = .reading := fun x hx => (h.reading x).mpr hx
  cases w with
  | idle => exact .test (fun _ => WriterPc.noConfusion) (fun _ => WriterPc.noConfusion)
  | own x | others x | lenth x => exact .branch x (fun _ => WriterPc.noConfusion) (fun _ => WriterPc.noConfusion)
  | take x =>
    have hx : p.state x = .readable := h.found x rfl
    refine .of_side (.inl hx) rfl rfl rfl rfl ?_ ?_ ?_ ?_ ?_ <;> simp +contextual [writerStep, setState, unwritten, hx]
  | fwrite x | wipe x | zero x | giveBack x =>
    have hx : p.state x = .reading := hreading x rfl
    refine .of_side (.inr hx) rfl rfl rfl rfl ?_ ?_ ?_ ?_ ?_ <;>
      simp +contextual [writerStep, setState, setMemory, setLenth, unwritten, hx]

theorem WriterOk.congr {p' : PingPang} (h : WriterOk p w) (hstate : p'.state = p.state)
    (hlen : p'.lenthToWrite = p.lenthToWrite) : WriterOk p' w :=
  ⟨fun y => by rw [hstate]; exact h.reading y, fun y hy => by rw [hstate]; exact h.found y hy,
    fun y hy => by rw [hlen]; exact h.lenth y (by rw [← hstate]; exact hy)⟩

theorem WriterOk.leave (h : WriterOk p w) (hw : ∀ y, ¬Reads w y) (hw' : ∀ y, ¬Reads w' y)
    (hfound : ∀ y, Found w' y → p.state y = .readable) : WriterOk p w' :=
  ⟨fun y => ⟨fun hy => absurd ((h.reading y).mp hy) (hw y), fun hy => absurd hy (hw' y)⟩, hfound, h.lenth⟩

theorem not_reads_elseBranch (x y : Side) : ¬Reads (.elseBranch x) y := by
  cases x <;> exact id

theorem not_found_elseBranch (x y : Side) : ¬Found (.elseBranch x) y := by
  cases x <;> exact id

theorem WriterOk.branch {c : Prop} [Decidable c] (h : WriterOk p w) (hw : ∀ y, ¬Reads w y) (hw' : ∀ y, ¬Reads w' y)
    (hfound : c → ∀ y, Found w' y → p.state y = .readable) : WriterOk p (if c then w' else .elseBranch x) := by
  split
  · rename_i hc
    exact h.leave hw hw' (hfound hc)
  · exact h.leave hw (not_reads_elseBranch x) (fun y hy => absurd hy (not_found_elseBranch x y))

theorem WriterOk.setState {st : BufferState} (h : WriterOk p w) (hx : st = .reading ↔ Reads w' x)
    (hother : ∀ y, y ≠ x → (Reads w' y ↔ Reads w y)) (hfound : ∀ y, Found w' y → y ≠ x ∧ Found w y)
    (hlen : st = .readable → p.lenthToWrite x ≠ 0) : WriterOk (p.setState x st) w' := by
  refine ⟨fun y => ?_, fun y hy => ?_, fun y hy => ?_⟩
  · by_cases hyx : y = x
    · subst hyx
      simpa [PingPang.setState] using hx
    · simpa [PingPang.setState, hyx, hother y hyx] using h.reading y
  · obtain ⟨hyx, hy⟩ := hfound y hy
    simpa [PingPang.setState, hyx] using h.found y hy
  · by_cases hyx : y = x
    · subst hyx
      exact hlen (by simpa [PingPang.setState] using hy)
    · exact h.lenth y (by simpa [PingPang.setState, hyx] using hy)

theorem WriterOk.setLenth (h : WriterOk p w) (hx : p.state x ≠ .readable) (n : Nat) : WriterOk (p.setLenth x n) w := by
  refine ⟨h.reading, h.found, fun y hy => ?_⟩
  have hyx : y ≠ x := fun heq => hx (heq ▸ hy)
  simpa [PingPang.setLenth, hyx] using h.lenth y hy

/-- The writer keeps what it relies on. -/
theorem writerStep_ok (h : WriterOk p w) : WriterOk (writerStep p w).1 (writerStep p w).2 := by
  cases w with
  | idle => exact h
  | own x =>
    apply h.branch (fun _ => id) (fun _ => id)
    rintro hx y rfl
    exact hx
  | others x | lenth x =>
    apply h.branch (fun _ => id) (fun _ => id)
    rintro - y rfl
    exact h.found x rfl
  | take x =>
    refine h.setState (by simp [writerStep, Reads]) (fun y hy => ?_) (fun _ => False.elim) (by simp)
    exact ⟨fun hxy => absurd hxy.symm hy, False.elim⟩
  | fwrite x | wipe x => exact ⟨h.reading, fun _ => False.elim, h.lenth⟩
  | zero x =>
    obtain ⟨hreading, -, hlen⟩ := h.setLenth (x := x) (by simp [(h.reading x).mpr rfl]) 0
    exact ⟨hreading, fun _ => False.elim, hlen⟩
  | giveBack x =>
    refine h.setState (by simp [writerStep, Reads]) (fun y hy => ?_) (fun _ => False.elim) (by simp)
    exact ⟨False.elim, fun hxy => absurd hxy.symm hy⟩

/-! ## The producer's part of the invariant -/

/-- The message is no longer than an empty buffer. -/
def Fits (m : Msg) : Prop := m.length ≤ endOffset

/-- The buffer `x` is the producer's, `next_write` is at its offset `n`, and what the file and the other
    buffer hold are the messages handed over. -/
structure Owns (k : Kept) (p : PingPang) (w : WriterPc) (x : Side) (n : Nat) : Prop where
  own : p.state x = .writing
  other : p.state x.other ≠ .writing
  next : p.nextWrite = some ⟨x, n⟩
  inside : n ≤ endOffset
  handed : p.file ++ unwritten p w x.other = k.handed.flatten

/-- What the buffer holds up to `n` are the messages held. -/
structure Filling (k : Kept) (p : PingPang) (w : WriterPc) (x : Side) (n : Nat) : Prop extends Owns k p w x n where
  held : content (p.memory x) n = k.held.flatten

/-- The buffer `x` is full, its length is set, and `next_write` is at the start of the other one. -/
structure Turning (k : Kept) (p : PingPang) (w : WriterPc) (x : Side) : Prop where
  own : p.state x = .writing
  next : p.nextWrite = some ⟨x.other, 0⟩
  lenth : p.lenthToWrite x ≠ 0
  handed : p.file ++ unwritten p w x.other = k.handed.flatten
  held : content (p.memory x) (p.lenthToWrite x) = k.held.flatten

/-- What holds at each place of the producer. -/
def ProducerOk (k : Kept) (p : PingPang) (w : WriterPc) : ProducerPc → Prop
  | .idle => ∃ x n, Filling k p w x n
  | .debuglog m | .nextWrite m => Fits m ∧ ∃ x n, Filling k p w x n
  | .own y m => Fits m ∧ ∃ x n, Filling k p w x n ∧ (y = .buffer2 → x = .buffer2)
  | .others x m | .room x m => Fits m ∧ ∃ n, Filling k p w x n
  | .writable x m => Fits m ∧ ∃ n, Filling k p w x n ∧ n ≠ 0
  | .lenth x m => Fits m ∧ ∃ n, Filling k p w x n ∧ n ≠ 0 ∧ p.state x.other = .writable
  | .turn x m =>
    Fits m ∧ ∃ n, Filling k p w x n ∧ n ≠ 0 ∧ p.state x.other = .writable ∧ p.lenthToWrite x = n
  | .take x m => Fits m ∧ Turning k p w x ∧ p.state x.other = .writable
  | .hand x m => Fits m ∧ Turning k p w x ∧ p.state x.other = .writing
  | .release m | .copy m => ∃ x n, Filling k p w x n ∧ n + m.length ≤ endOffset
  | .wipe x m | .restart x m => Fits m ∧ ∃ n, Owns k p w x n
  | .loose x m => Fits m ∧ Owns k p w x 0
  | .advance m =>
    ∃ x n, Owns k p w x n ∧ n + m.length ≤ endOffset ∧ content (p.memory x) (n + m.length) = k.held.flatten
  | .crashed => False

section Stable

variable {k : Kept} {p p' : PingPang} {w w' : WriterPc} {x : Side} {n : Nat}

theorem Owns.stable (hm : WriterMoves p w p' w') (h : Owns k p w x n) : Owns k p' w' x n where
  own := (hm.writing x).mpr h.own
  other := fun hx => h.other ((hm.writing x.other).mp hx)
  next := hm.nextWrite.trans h.next
  inside := h.inside
  handed := (hm.unwritten x h.own).trans h.handed

theorem Filling.stable (hm : WriterMoves p w p' w') (h : Filling k p w x n) : Filling k p' w' x n :=
  ⟨h.toOwns.stable hm, by rw [hm.memory x h.own]; exact h.held⟩

theorem Turning.stable (hm : WriterMoves p w p' w') (h : Turning k p w x) : Turning k p' w' x where
  own := (hm.writing x).mpr h.own
  next := hm.nextWrite.trans h.next
  lenth := by rw [hm.lenth x h.own]; exact h.lenth
  handed := (hm.unwritten x h.own).trans h.handed
  held := by rw [hm.memory x h.own, hm.lenth x h.own]; exact h.held

/-- What the producer relies on survives the steps of the writer. -/
theorem ProducerOk.stable (hm : WriterMoves p w p' w') {pc : ProducerPc} (h : ProducerOk k p w pc) :
    ProducerOk k p' w' pc := by
  cases pc with
  | idle =>
    obtain ⟨x, n, hf⟩ := h
    exact ⟨x, n, hf.stable hm⟩
  | debuglog m | nextWrite m =>
    obtain ⟨hm', x, n, hf⟩ := h
    exact ⟨hm', x, n, hf.stable hm⟩
  | own y m =>
    obtain ⟨hm', x, n, hf, hy⟩ := h
    exact ⟨hm', x, n, hf.stable hm, hy⟩
  | others x m | room x m | wipe x m | restart x m =>
    obtain ⟨hm', n, hf⟩ := h
    exact ⟨hm', n, hf.stable hm⟩
  | writable x m =>
    obtain ⟨hm', n, hf, hn⟩ := h
    exact ⟨hm', n, hf.stable hm, hn⟩
  | lenth x m =>
    obtain ⟨hm', n, hf, hn, ho⟩ := h
    exact ⟨hm', n, hf.stable hm, hn, hm.writable _ ho⟩
  | turn x m =>
    obtain ⟨hm', n, hf, hn, ho, hl⟩ := h
    exact ⟨hm', n, hf.stable hm, hn, hm.writable _ ho, (hm.lenth x hf.own).trans hl⟩
  | take x m =>
    obtain ⟨hm', ht, ho⟩ := h
    exact ⟨hm', ht.stable hm, hm.writable _ ho⟩
  | hand x m =>
    obtain ⟨hm', ht, ho⟩ := h
    exact ⟨hm', ht.stable hm, (hm.writing _).mpr ho⟩
  | release m | copy m =>
    obtain ⟨x, n, hf, hn⟩ := h
    exact ⟨x, n, hf.stable hm, hn⟩
  | loose x m => exact ⟨h.1, h.2.stable hm⟩
  | advance m =>
    obtain ⟨x, n, ho, hn, hc⟩ := h
    exact ⟨x, n, ho.stable hm, hn, by rw [hm.memory x ho.own]; exact hc⟩
  | crashed => exact h

end Stable

section Producer

variable {k : Kept} {p p' : PingPang} {w : WriterPc} {x : Side} {n : Nat} {m : Msg}

theorem Owns.exceeds_iff (h : Owns k p w x n) (hp : p.pointers = true) (len : Nat) :
    p.exceeds x len = true ↔ endOffset < n + len := by
  simp [exceeds, hp, h.next]

theorem writing_iff (hx : p.state x = .writing) (hother : p.state x.other ≠ .writing) (y : Side) :
    p.state y = .writing ↔ y = x := by
  refine ⟨fun hy => ?_, fun heq => heq ▸ hx⟩
  by_contra hne
  exact hother (by rw [Side.other_of_ne (Ne.symm hne)]; exact hy)

theorem Owns.filled_eq (h : Owns k p w x n) : p.filled x = n := by
  simp [filled, h.next]

variable {pc : ProducerPc}

theorem ProducerOk.writing (h : ProducerOk k p w pc) : ∃ x, p.state x = .writing := by
  cases pc with
  | idle => obtain ⟨x, n, hf⟩ := h; exact ⟨x, hf.own⟩
  | debuglog m | nextWrite m => obtain ⟨-, x, n, hf⟩ := h; exact ⟨x, hf.own⟩
  | own y m => obtain ⟨-, x, n, hf, -⟩ := h; exact ⟨x, hf.own⟩
  | others x m | room x m | wipe x m | restart x m => obtain ⟨-, n, hf⟩ := h; exact ⟨x, hf.own⟩
  | writable x m | lenth x m | turn x m => obtain ⟨-, n, hf, -⟩ := h; exact ⟨x, hf.own⟩
  | take x m | hand x m => exact ⟨x, h.2.1.own⟩
  | release m | copy m => obtain ⟨x, n, hf, -⟩ := h; exact ⟨x, hf.own⟩
  | loose x m => exact ⟨x, h.2.own⟩
  | advance m => obtain ⟨x, n, ho, -⟩ := h; exact ⟨x, ho.own⟩
  | crashed => exact h.elim

theorem Owns.congr (h : Owns k p w x n) (hstate : p'.state = p.state) (hnext : p'.nextWrite = p.nextWrite)
    (hfile : p'.file = p.file) (hmem : p'.memory x.other = p.memory x.other)
    (hlen : p'.lenthToWrite x.other = p.lenthToWrite x.other) : Owns k p' w x n where
  own := by rw [hstate]; exact h.own
  other := by rw [hstate]; exact h.other
  next := hnext.trans h.next
  inside := h.inside
  handed := by rw [hfile, unwritten_of_state (congrFun hstate _) hmem hlen Iff.rfl]; exact h.handed

theorem Turning.hand (h : Turning k p w x) (ho : p.state x.other = .writing) :
    Filling (k.note .handed) (p.setState x .readable) w x.other 0 := by
  have hx : (p.setState x .readable).state x = .readable := Function.update_self ..
  refine ⟨⟨by simpa [setState] using ho, by simp [hx], h.next, Nat.zero_le _, ?_⟩, rfl⟩
  have hfile : p.file = k.handed.flatten := by
    rw [← h.handed, unwritten_writing ho, List.append_nil]
  rw [Side.other_other, unwritten_readable hx]
  show p.file ++ content (p.memory x) (p.lenthToWrite x) = (k.handed ++ k.held).flatten
  rw [h.held, hfile, List.flatten_append]

theorem Owns.copyTo_eq (h : Owns k p w x n) (m : Msg) : p.copyTo m = p.setMemory x (memcpy (p.memory x) n m) := by
  simp [PingPang.copyTo, h.next]

theorem Filling.copyTo (h : Filling k p w x n) (target : Target) (m : Msg) :
    Owns (k.note (.copied target m)) (p.copyTo m) w x n ∧
      content ((p.copyTo m).memory x) (n + m.length) = (k.note (.copied target m)).held.flatten := by
  rw [h.copyTo_eq]
  constructor
  · have ho : Owns (k.note (.copied target m)) p w x n := ⟨h.own, h.other, h.next, h.inside, h.handed⟩
    exact ho.congr rfl rfl rfl (Function.update_of_ne x.other_ne _ _) rfl
  · simp [setMemory, content_memcpy, h.held, Kept.note]

/-- The producer keeps what it relies on. -/
theorem producerStatement_ok (hp : p.pointers = true) (h : ProducerOk k p w pc) :
    ProducerOk (k.noteAll (producerStatement p pc).2.2) (producerStatement p pc).1 w (producerStatement p pc).2.1 := by
  cases pc <;> simp only [producerStatement]
  case idle | crashed => exact h
  case debuglog m =>
    obtain ⟨hfits, x, n, hf⟩ := h
    split
    · exact ⟨hfits, x, n, hf⟩
    · exact ⟨x, n, hf⟩
  case nextWrite m =>
    obtain ⟨hfits, x, n, hf⟩ := h
    split
    · exact ⟨hfits, x, n, hf, Side.noConfusion⟩
    · exact ⟨x, n, hf⟩
  case own y m =>
    obtain ⟨hfits, x, n, hf, hy⟩ := h
    by_cases hyx : y = x
    · subst hyx
      rw [if_pos hf.own]
      exact ⟨hfits, n, hf⟩
    · rw [if_neg (mt (writing_iff hf.own hf.other y).mp hyx)]
      cases y with
      | buffer1 => exact ⟨hfits, x, n, hf, fun _ => by cases x <;> trivial⟩
      | buffer2 => exact absurd (hy rfl).symm hyx
  case others x m =>
    obtain ⟨hfits, n, hf⟩ := h
    rw [if_pos hf.other]
    exact ⟨hfits, n, hf⟩
  case room x m =>
    obtain ⟨hfits, n, hf⟩ := h
    split
    · rename_i hroom
      refine ⟨hfits, n, hf, ?_⟩
      -- a message that fits into an empty buffer does not exceed it
      have hmore : endOffset < n + m.length := (hf.exceeds_iff hp _).mp hroom
      have hlen : m.length ≤ endOffset := hfits
      omega
    · rename_i hroom
      rw [hf.exceeds_iff hp] at hroom
      exact ⟨x, n, hf, Nat.le_of_not_lt hroom⟩
  case writable x m =>
    obtain ⟨hfits, n, hf, hn⟩ := h
    split
    · rename_i ho
      exact ⟨hfits, n, hf, hn, ho⟩
    · exact ⟨hfits, n, hf.toOwns⟩
  case lenth x m =>
    obtain ⟨hfits, n, hf, hn, ho⟩ := h
    refine ⟨hfits, n, ⟨hf.toOwns.congr rfl rfl rfl rfl (Function.update_of_ne x.other_ne _ _), hf.held⟩, hn, ho, ?_⟩
    simp [setLenth, hf.filled_eq]
  case turn x m =>
    obtain ⟨hfits, n, hf, hn, ho, rfl⟩ := h
    exact ⟨hfits, ⟨hf.own, by simp [startAddress, hp], hn, hf.handed, hf.held⟩, ho⟩
  case take x m =>
    obtain ⟨hfits, ht, ho⟩ := h
    have ho' : (p.setState x.other .writing).state x.other = .writing := Function.update_self ..
    refine ⟨hfits, ⟨by simpa [setState] using ht.own, ht.next, ht.lenth, ?_, ht.held⟩, ho'⟩
    rw [unwritten_writing ho', ← unwritten_writable (w := w) ho]
    exact ht.handed
  case hand x m =>
    obtain ⟨hfits, ht, ho⟩ := h
    exact ⟨x.other, 0, ht.hand ho, by rw [Nat.zero_add]; exact hfits⟩
  case release m =>
    obtain ⟨x, n, hf, hn⟩ := h
    exact ⟨x, n, ⟨hf.toOwns.congr rfl rfl rfl rfl rfl, hf.held⟩, hn⟩
  case wipe x m =>
    obtain ⟨hfits, n, ho⟩ := h
    exact ⟨hfits, n, ho.congr rfl rfl rfl (Function.update_of_ne x.other_ne _ _) rfl⟩
  case restart x m =>
    obtain ⟨hfits, n, ho⟩ := h
    exact ⟨hfits, ho.own, ho.other, by simp [startAddress, hp], Nat.zero_le _, ho.handed⟩
  case loose x m =>
    obtain ⟨hfits, ho⟩ := h
    exact ⟨x, 0, ⟨⟨ho.own, ho.other, ho.next, ho.inside, ho.handed⟩, rfl⟩, by rw [Nat.zero_add]; exact hfits⟩
  case copy m =>
    obtain ⟨x, n, hf, hn⟩ := h
    obtain ⟨ho, hc⟩ := hf.copyTo p.target m
    rw [if_neg (by simp [hf.next])]
    exact ⟨x, n, ho, hn, hc⟩
  case advance m =>
    obtain ⟨x, n, ho, hn, hc⟩ := h
    exact ⟨x, n + m.length, ⟨ho.own, ho.other, by simp [ho.next], hn, ho.handed⟩, hc⟩

theorem WriterOk.pass (hw : WriterOk p w) {st : BufferState} (hst : st ≠ .reading)
    (hx : p.state x ≠ .readable ∧ p.state x ≠ .reading) (hlen : st = .readable → p.lenthToWrite x ≠ 0) :
    WriterOk (p.setState x st) w := by
  refine hw.setState ?_ (fun _ _ => Iff.rfl) (fun y hy => ⟨?_, hy⟩) hlen
  · rw [← hw.reading x]
    exact ⟨fun h => absurd h hst, fun h => absurd h hx.2⟩
  · rintro rfl
    exact hx.1 (hw.found y hy)

/-- The producer takes nothing from the writer. -/
theorem producerStatement_writerOk (hw : WriterOk p w) (h : ProducerOk k p w pc) :
    WriterOk (producerStatement p pc).1 w := by
  cases pc with
  | lenth x m =>
    obtain ⟨-, n, hf, -⟩ := h
    exact hw.setLenth (by simp [hf.own]) _
  | take x m =>
    obtain ⟨-, -, ho⟩ := h
    exact hw.pass (by simp) (by simp [ho]) (by simp)
  | hand x m =>
    obtain ⟨-, ht, -⟩ := h
    exact hw.pass (by simp) (by simp [ht.own]) (fun _ => ht.lenth)
  | copy m =>
    obtain ⟨x, n, hf, -⟩ := h
    show WriterOk (p.copyTo m) w
    rw [hf.copyTo_eq]
    exact hw.congr rfl rfl
  | idle | debuglog | nextWrite | own | others | room | writable | turn | release | wipe | restart | loose | advance | crashed =>
    exact hw.congr rfl rfl

/-! ## Both parts together -/

@[simp] theorem copyTo_pointers (p : PingPang) (m : Msg) : (p.copyTo m).pointers = p.pointers := by
  unfold PingPang.copyTo; split <;> rfl

@[simp] theorem copyTo_live (p : PingPang) (m : Msg) : (p.copyTo m).live = p.live := by
  unfold PingPang.copyTo; split <;> rfl

@[simp] theorem copyTo_numLoose (p : PingPang) (m : Msg) : (p.copyTo m).numLoose = p.numLoose := by
  unfold PingPang.copyTo; split <;> rfl

theorem producerStatement_intact (p : PingPang) (pc : ProducerPc) :
    (producerStatement p pc).1.pointers = p.pointers ∧ (producerStatement p pc).1.live = p.live := by
  cases pc with
  | copy m => exact ⟨copyTo_pointers p m, copyTo_live p m⟩
  | _ => exact ⟨rfl, rfl⟩

/-- The buffers are allocated, and both threads' parts hold. -/
structure Inv (k : Kept) (p : PingPang) (pc : ProducerPc) (w : WriterPc) : Prop where
  pointers : p.pointers = true
  live : ∀ x, p.live x = true
  writer : WriterOk p w
  producer : ProducerOk k p w pc

theorem producerStep_eq (hp : p.pointers = true) (pc : ProducerPc) : producerStep p pc = producerStatement p pc := by
  simp [producerStep, hp]

/-- **A step of the producer keeps the invariant.** -/
theorem Inv.produce (h : Inv k p pc w) :
    Inv (k.noteAll (producerStep p pc).2.2) (producerStep p pc).1 (producerStep p pc).2.1 w := by
  rw [producerStep_eq h.pointers]
  obtain ⟨hpointers, hlive⟩ := producerStatement_intact p pc
  exact ⟨hpointers.trans h.pointers, fun x => (congrFun hlive x).trans (h.live x),
    producerStatement_writerOk h.writer h.producer, producerStatement_ok h.pointers h.producer⟩

/-- **So does a step of the writer.** -/
theorem Inv.write (h : Inv k p pc w) : Inv k (writerStep p w).1 pc (writerStep p w).2 := by
  have hm : WriterMoves p w (writerStep p w).1 (writerStep p w).2 := writerStep_moves h.writer
  exact ⟨hm.pointers.trans h.pointers, fun x => (congrFun hm.live x).trans (h.live x), writerStep_ok h.writer,
    h.producer.stable hm⟩

theorem Inv.call (h : Inv k p pc .idle) : Inv k p pc (.own .buffer1) where
  pointers := h.pointers
  live := h.live
  writer := h.writer.leave (fun _ => id) (fun _ => id) (fun _ => False.elim)
  producer := h.producer.stable (.test (fun _ => WriterPc.noConfusion) (fun _ => WriterPc.noConfusion))

end Producer

theorem inv_init : Inv (keptOf []) .init .idle .idle where
  pointers := rfl
  live := fun _ => rfl
  writer := by
    refine ⟨fun y => ⟨fun hy => ?_, False.elim⟩, fun _ => False.elim, fun y hy => ?_⟩
    all_goals cases y <;> exact BufferState.noConfusion hy
  producer := ⟨.buffer1, 0, ⟨rfl, BufferState.noConfusion, rfl, Nat.zero_le _, rfl⟩, rfl⟩

end HuaweiY5.Mnld.DbgLog
