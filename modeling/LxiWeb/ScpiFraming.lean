import LxiWeb.JsText

/-! Frames a session writes and messages it reads: LF-terminated lines and IEEE 488.2
definite-length blocks. Both readers return what they consumed together with the bytes
that stay buffered. -/
namespace LxiWeb.ScpiFraming
open JsText

inductive ErrorName where
  | scpiError | scpiTimeoutError | scpiTransportError | scpiProtocolError | scpiClosedError
  | error
  deriving DecidableEq, Repr

structure JsError where
  name : ErrorName
  message : String
  deriving DecidableEq, Repr

def scpiClosedError (message : String := "SCPI session is closed") : JsError :=
  ⟨.scpiClosedError,message⟩
def scpiProtocolError (message : String) : JsError := ⟨.scpiProtocolError,message⟩
def scpiTimeoutError (message : String) : JsError := ⟨.scpiTimeoutError,message⟩

-- Every class but `Error` itself extends `ScpiError`.
def toScpiError (err : JsError) : JsError :=
  match err.name with
  | .error => ⟨.scpiError,err.message⟩
  | _ => err

def LF : UInt8 := 0x0a
def CR : UInt8 := 0x0d

inductive Request where
  | command (text : String)
  | block (command : String) (data : Bytes)
  deriving DecidableEq, Repr

def sendCommand (terminator : Bytes) (command : String) : Bytes := encode command ++ terminator

def sendBinary (terminator : Bytes) (command : String) (data : Bytes) : Bytes :=
  let lengthDigits := toString data.length
  encode command ++ encode s!"#{lengthDigits.length}{lengthDigits}" ++ data ++ terminator

def frame (terminator : Bytes) : Request → Bytes
  | .command text => sendCommand terminator text
  | .block command data => sendBinary terminator command data

def trimCr (slice : Bytes) : Bytes := if slice.getLast? = some CR then slice.dropLast else slice

def consumeLine (buffer : Bytes) : Option (String × Bytes) :=
  match buffer.idxOf? LF with
  | none => none
  | some idx => some (decode (trimCr (buffer.take idx)),buffer.drop (idx+1))

def hex (b : UInt8) : String := String.ofList (Nat.toDigits 16 b.toNat)

-- The device's terminator goes with its block only when it is buffered already.
def dropTerminator (rest : Bytes) : Bytes := if rest.head? = some LF then rest.tail else rest

def consumeBinaryBlock (buf : Bytes) : Except JsError (Option (Bytes × Bytes)) :=
  match buf with
  | [] | [_] => .ok none
  | first :: second :: _ =>
    if first ≠ 0x23 then
      .error (scpiProtocolError s!"expected IEEE block header '#', got 0x{hex first}")
    else
      let digitCount : Int := (second.toNat : Int) - 0x30
      if digitCount ≤ 0 ∨ digitCount > 9 then
        .error (scpiProtocolError s!"invalid IEEE block digit-count: {digitCount}")
      else
        let headerSize := 2 + digitCount.toNat
        if buf.length < headerSize then .ok none
        else match parseInt (decode ((buf.take headerSize).drop 2)) with
          | none => .error (scpiProtocolError "invalid IEEE block length: NaN")
          | some length =>
            if length < 0 then
              .error (scpiProtocolError s!"invalid IEEE block length: {length}")
            else
              let nextStart := headerSize + length.toNat
              if buf.length < nextStart then .ok none
              else
                .ok (some ((buf.take nextStart).drop headerSize,
                  dropTerminator (buf.drop nextStart)))

structure Line where
  body : Bytes
  noLf : LF ∉ body

def Line.bytes (l : Line) : Bytes := l.body ++ [LF]

def Line.text (l : Line) : String := decode (trimCr l.body)

structure Block where
  digits : List (Fin 10)
  payload : Bytes
  counted : digitsValue (digits.map Fin.val) = payload.length
  present : digits ≠ []
  short : digits.length ≤ 9

def Block.header (b : Block) : Bytes :=
  0x23 :: UInt8.ofNat (0x30 + b.digits.length) :: b.digits.map digitByte

def Block.bytes (b : Block) : Bytes := b.header ++ b.payload

theorem Line.found (l : Line) (rest : Bytes) :
    (l.body ++ LF :: rest).idxOf? LF = some l.body.length := by
  rw [List.idxOf?_eq_some_iff]
  refine ⟨by simp,by simp,?_⟩
  intro j before
  rw [List.getElem_append_left before]
  exact fun eq => l.noLf (eq ▸ List.getElem_mem before)

theorem firstLine {buffer : Bytes} (some_ : LF ∈ buffer) :
    ∃ (l : Line) (rest : Bytes), buffer = l.bytes ++ rest := by
  obtain ⟨body,rest,rfl,noLf⟩ := List.eq_append_cons_of_mem some_
  exact ⟨⟨body,noLf⟩,rest,by simp [Line.bytes]⟩

theorem consumeLineWhole (l : Line) (rest : Bytes) :
    consumeLine (l.bytes ++ rest) = some (l.text,rest) := by
  simp [consumeLine,Line.bytes,Line.text,l.found]

theorem consumeLineNone {buffer : Bytes} (noLf : LF ∉ buffer) : consumeLine buffer = none := by
  simp [consumeLine,List.idxOf?_eq_none_iff.mpr noLf]

theorem countByte {n : Nat} (short : n ≤ 9) : (UInt8.ofNat (0x30 + n)).toNat = 0x30 + n := by
  simp only [UInt8.toNat_ofNat']
  omega

theorem Block.headerLength (b : Block) : b.header.length = 2 + b.digits.length := by
  simp [Block.header]
  omega

theorem consumeAfterHeader (b : Block) (tail : Bytes) :
    consumeBinaryBlock (b.header ++ tail) =
      if tail.length < b.payload.length then .ok none
      else .ok (some (tail.take b.payload.length,dropTerminator (tail.drop b.payload.length))) := by
  have positive : 0 < b.digits.length := List.length_pos_iff.mpr b.present
  have short := b.short
  have count : ((0x30 + b.digits.length : Nat) : Int) - 0x30 = b.digits.length := by omega
  have digits : ((b.header ++ tail).take (2 + b.digits.length)).drop 2 = b.digits.map digitByte := by
    rw [← b.headerLength,List.take_left]
    rfl
  have value := parseIntDigits b.digits b.present
  have length : (b.header ++ tail).length = 2 + b.digits.length + tail.length := by
    rw [List.length_append,b.headerLength]
  have body : ((b.header ++ tail).take (2 + b.digits.length + b.payload.length)).drop
      (2 + b.digits.length) = tail.take b.payload.length := by
    rw [← b.headerLength,List.take_length_add_append,List.drop_left]
  have rest : (b.header ++ tail).drop (2 + b.digits.length + b.payload.length) =
      tail.drop b.payload.length := by
    rw [← b.headerLength,List.drop_length_add_append]
  obtain ⟨second,more,shape,code⟩ : ∃ second more, b.header ++ tail = 0x23 :: second :: more ∧
      second.toNat = 0x30 + b.digits.length := ⟨_,_,rfl,countByte short⟩
  rw [shape] at digits length body rest ⊢
  simp only [consumeBinaryBlock,ne_eq,not_true_eq_false,if_false,code,count,Int.toNat_natCast]
  rw [if_neg (by omega),if_neg (by omega)]
  simp only [digits,value,b.counted,Int.toNat_natCast,body,rest,length]
  rw [if_neg (by omega)]
  by_cases missing : tail.length < b.payload.length
  · rw [if_pos (by omega),if_pos missing]
  · rw [if_neg (by omega),if_neg missing]

theorem consumeBlockWhole (b : Block) (rest : Bytes) :
    consumeBinaryBlock (b.bytes ++ LF :: rest) = .ok (some (b.payload,rest)) := by
  rw [Block.bytes,List.append_assoc,consumeAfterHeader]
  simp [dropTerminator]

theorem consumeHeaderPart (b : Block) {part : Bytes} (early : part <+: b.header)
    (short : part.length < b.header.length) : consumeBinaryBlock part = .ok none := by
  match part, early with
  | [], _ => rfl
  | [_], _ => rfl
  | first :: second :: more, early =>
    obtain ⟨tail,whole⟩ := early
    simp only [Block.header,List.cons_append,List.cons.injEq] at whole
    obtain ⟨rfl,rfl,_⟩ := whole
    have positive : 0 < b.digits.length := List.length_pos_iff.mpr b.present
    have few := b.short
    have count : ((0x30 + b.digits.length : Nat) : Int) - 0x30 = b.digits.length := by omega
    rw [b.headerLength] at short
    simp only [consumeBinaryBlock,ne_eq,not_true_eq_false,if_false,countByte few,count,
      Int.toNat_natCast]
    rw [if_neg (by omega),if_pos short]

theorem consumeBlockPart (b : Block) {part : Bytes} (early : part <+: b.bytes)
    (proper : part ≠ b.bytes) : consumeBinaryBlock part = .ok none := by
  rcases List.prefix_or_prefix_of_prefix early (List.prefix_append b.header b.payload) with
    inHeader | ⟨tail,rfl⟩
  · by_cases whole : part = b.header
    · subst part
      have some : 0 < b.payload.length := by
        rw [List.length_pos_iff]
        intro none
        exact proper (by simp [Block.bytes,none])
      simpa [some] using consumeAfterHeader b []
    · exact consumeHeaderPart b inHeader
        (lt_of_le_of_ne inHeader.length_le fun same => whole (inHeader.eq_of_length same))
  · rw [consumeAfterHeader,if_pos]
    have inPayload : tail <+: b.payload := by
      simpa [Block.bytes] using early
    refine lt_of_le_of_ne inPayload.length_le fun same => proper ?_
    rw [Block.bytes,inPayload.eq_of_length same]

theorem sendsBlock {data : Bytes} (short : data.length < 1000000000) : ∃ b : Block, b.payload = data ∧
    ∀ terminator command, sendBinary terminator command data =
      encode command ++ b.bytes ++ terminator := by
  obtain ⟨digits,letters,value⟩ := decimalDigits data.length
  have count : digits.length = (Nat.toDigits 10 data.length).length := by rw [← letters,List.length_map]
  have few : digits.length ≤ 9 := by
    rw [count]
    exact (Nat.length_toDigits_le_iff (by decide) (by decide)).mpr short
  have some_ : digits ≠ [] := by
    intro none_
    exact Nat.toDigits_ne_nil (by rw [← letters,none_]; rfl)
  refine ⟨⟨digits,data,value,some_,few⟩,rfl,fun terminator command => ?_⟩
  have length : (toString data.length).length = digits.length := by
    rw [count,Nat.toString_eq_ofList_toDigits,String.length_ofList]
  have one : toString digits.length = String.ofList ([⟨digits.length,by omega⟩].map digitChar) := by
    rw [Nat.toString_eq_ofList_toDigits,Nat.toDigits_of_lt_base (by omega)]
    simp [digitCharNat]
  have all : toString data.length = String.ofList (digits.map digitChar) := by
    rw [letters,Nat.toString_eq_ofList_toDigits]
  have header : encode s!"#{(toString data.length).length}{toString data.length}" =
      0x23 :: UInt8.ofNat (0x30 + digits.length) :: digits.map digitByte := by
    rw [length,one,all]
    have joined : "#" ++ String.ofList ([⟨digits.length,by omega⟩].map digitChar) ++
        String.ofList (digits.map digitChar) = String.ofList (['#'] ++
          (([⟨digits.length,by omega⟩] : List (Fin 10)) ++ digits).map digitChar) := by
      apply String.toList_inj.mp
      simp
    refine (congrArg encode joined).trans ?_
    rw [encodeAppend,encodeDigits]
    rfl
  unfold sendBinary
  simp only [header,Block.bytes,Block.header,List.append_assoc]

theorem shortDigits (n : Nat) : (toString n).length ≤ 9 ↔ n < 1000000000 := by
  rw [Nat.toString_eq_ofList_toDigits,String.length_ofList]
  exact Nat.length_toDigits_le_iff (by decide) (by decide)

end LxiWeb.ScpiFraming
