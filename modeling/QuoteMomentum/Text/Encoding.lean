import QuoteMomentum.Text.Classes
import QuoteMomentum.Text.Points

/-!
# Decoding bytes into text

A body of bytes is decoded by the encoding its first bytes suggest: a
byte-order mark names UTF-32, UTF-16 or UTF-8; without one, zero bytes among
the first four tell UTF-16 or UTF-32 and their order, since a JSON text starts
with an ASCII character; otherwise it is UTF-8.

Decoding fails at the first malformed sequence, with the name of the codec,
the byte range and a reason, as `DecodeError.message` words it. UTF-8 refuses
bytes that start no sequence, continuation bytes out of range (overlong forms,
code points past U+10FFFF) and sequences cut off by the end. An encoded
surrogate is let through in every encoding of a body, into its kept form (see
`Text.points`); a text file is read as strict UTF-8, which refuses one.
UTF-16 and UTF-32 refuse a trailing part of a unit, and UTF-32 code points
past U+10FFFF.
-/

namespace QuoteMomentum.Text

/-- The encodings a body may be in. -/
inductive Encoding where
  | utf8
  | utf8Sig
  | utf16
  | utf16le
  | utf16be
  | utf32
  | utf32le
  | utf32be
  deriving Repr, DecidableEq

/-- Why bytes do not decode: the codec, the range `[start, stop)` of the
offending bytes, the first of them, and the reason. -/
structure DecodeError where
  codec : String
  start : Nat
  stop : Nat
  byte : Nat
  reason : String
  deriving Repr, DecidableEq

/-- The message of a decode error. -/
def DecodeError.message (e : DecodeError) : String :=
  if e.stop = e.start + 1 then
    "'" ++ e.codec ++ "' codec can't decode byte 0x" ++ hexByte e.byte ++ " in position " ++
      toString e.start ++ ": " ++ e.reason
  else
    "'" ++ e.codec ++ "' codec can't decode bytes in position " ++ toString e.start ++ "-" ++
      toString (e.stop - 1) ++ ": " ++ e.reason
where
  hexByte (n : Nat) : String :=
    let d (k : Nat) : Char := if k < 10 then Char.ofNat (48 + k) else Char.ofNat (87 + k)
    String.ofList [d (n / 16 % 16), d (n % 16)]

/-- The encoding that the first bytes suggest. -/
def Encoding.detect (b : List Nat) : Encoding :=
  match b with
  | 0 :: 0 :: 0xfe :: 0xff :: _ => .utf32
  | 0xff :: 0xfe :: 0 :: 0 :: _ => .utf32
  | 0xfe :: 0xff :: _ => .utf16
  | 0xff :: 0xfe :: _ => .utf16
  | 0xef :: 0xbb :: 0xbf :: _ => .utf8Sig
  | b0 :: b1 :: b2 :: b3 :: _ =>
    if b0 == 0 then (if b1 != 0 then .utf16be else .utf32be)
    else if b1 == 0 then (if b2 != 0 || b3 != 0 then .utf16le else .utf32le)
    else .utf8
  | [b0, b1] =>
    if b0 == 0 then .utf16be else if b1 == 0 then .utf16le else .utf8
  | _ => .utf8

/-- Whether a byte continues a UTF-8 sequence. -/
def isCont (b : Nat) : Bool := 0x80 ≤ b && b ≤ 0xbf

/-- Decodes UTF-8 from byte position `pos`, with the code points so far
reversed; a `strict` decoder refuses an encoded surrogate. -/
def utf8From (codec : String) (strict : Bool) : List Nat → Nat → List Nat → Except DecodeError String
  | [], _, acc => .ok (String.ofList (keepPoints acc.reverse))
  | b :: rest, pos, acc =>
    let err (len : Nat) (reason : String) : Except DecodeError String :=
      .error ⟨codec, pos, pos + len, b, reason⟩
    let cut (reason : String) : Except DecodeError String :=
      .error ⟨codec, pos, pos + 1 + rest.length, b, reason⟩
    if b < 0x80 then utf8From codec strict rest (pos + 1) (b :: acc)
    else if b < 0xc2 then err 1 "invalid start byte"
    else if b < 0xe0 then
      match rest with
      | [] => cut "unexpected end of data"
      | c1 :: rest' =>
        if isCont c1 then
          utf8From codec strict rest' (pos + 2) (((b % 32) * 64 + c1 % 64) :: acc)
        else err 1 "invalid continuation byte"
    else if b < 0xf0 then
      let lo := if b == 0xe0 then 0xa0 else 0x80
      -- an encoded surrogate (after 0xed) passes unless the decoder is strict
      let hi := if strict && b == 0xed then 0x9f else 0xbf
      match rest with
      | [] => cut "unexpected end of data"
      | c1 :: rest1 =>
        if !(lo ≤ c1 && c1 ≤ hi) then err 1 "invalid continuation byte"
        else match rest1 with
          | [] => if b == 0xed && 0xa0 ≤ c1 then err 1 "invalid continuation byte"
            else cut "unexpected end of data"
          | c2 :: rest2 =>
            if !isCont c2 then
              (if b == 0xed && 0xa0 ≤ c1 then err 1 "invalid continuation byte"
               else err 2 "invalid continuation byte")
            else
              utf8From codec strict rest2 (pos + 3)
                (((b % 16) * 4096 + (c1 % 64) * 64 + c2 % 64) :: acc)
    else if b < 0xf5 then
      let lo := if b == 0xf0 then 0x90 else 0x80
      let hi := if b == 0xf4 then 0x8f else 0xbf
      match rest with
      | [] => cut "unexpected end of data"
      | c1 :: rest1 =>
        if !(lo ≤ c1 && c1 ≤ hi) then err 1 "invalid continuation byte"
        else match rest1 with
          | [] => cut "unexpected end of data"
          | c2 :: rest2 =>
            if !isCont c2 then err 2 "invalid continuation byte"
            else match rest2 with
              | [] => cut "unexpected end of data"
              | c3 :: rest3 =>
                if !isCont c3 then err 3 "invalid continuation byte"
                else utf8From codec strict rest3 (pos + 4)
                  (((b % 8) * 262144 + (c1 % 64) * 4096 + (c2 % 64) * 64 + c3 % 64) :: acc)
    else err 1 "invalid start byte"

/-- Decodes UTF-16 units in the given byte order from position `pos`. -/
def utf16From (codec : String) (big : Bool) : List Nat → Nat → List Nat → Except DecodeError String
  | [], _, acc => .ok (String.ofList (keepPoints acc.reverse))
  | [b], pos, _ => .error ⟨codec, pos, pos + 1, b, "truncated data"⟩
  | b0 :: b1 :: rest, pos, acc =>
    let u := if big then b0 * 256 + b1 else b1 * 256 + b0
    if 0xd800 ≤ u && u ≤ 0xdbff then
      match h : rest with
      | c0 :: c1 :: rest' =>
        let v := if big then c0 * 256 + c1 else c1 * 256 + c0
        if 0xdc00 ≤ v && v ≤ 0xdfff then
          utf16From codec big rest' (pos + 4)
            ((0x10000 + (u - 0xd800) * 0x400 + (v - 0xdc00)) :: acc)
        else utf16From codec big rest (pos + 2) (u :: acc)
      | _ => utf16From codec big rest (pos + 2) (u :: acc)
    else utf16From codec big rest (pos + 2) (u :: acc)
termination_by bs _ _ => bs.length
decreasing_by
  all_goals (try subst h)
  all_goals first
    | exact Nat.lt_trans (Nat.lt_succ_self _) (Nat.lt_succ_self _)
    | exact Nat.lt_trans (Nat.lt_succ_self _) (Nat.lt_trans (Nat.lt_succ_self _)
        (Nat.lt_trans (Nat.lt_succ_self _) (Nat.lt_succ_self _)))

/-- Decodes UTF-32 units in the given byte order from position `pos`. -/
def utf32From (codec : String) (big : Bool) : List Nat → Nat → List Nat → Except DecodeError String
  | [], _, acc => .ok (String.ofList (keepPoints acc.reverse))
  | b0 :: b1 :: b2 :: b3 :: rest, pos, acc =>
    let u := if big then ((b0 * 256 + b1) * 256 + b2) * 256 + b3
      else ((b3 * 256 + b2) * 256 + b1) * 256 + b0
    if 0x110000 ≤ u then .error ⟨codec, pos, pos + 4, b0, "code point not in range(0x110000)"⟩
    else utf32From codec big rest (pos + 4) (u :: acc)
  | b :: rest, pos, _ => .error ⟨codec, pos, pos + 1 + rest.length, b, "truncated data"⟩

/-- Decodes bytes in an encoding; a byte-order mark that the encoding reads
is dropped. -/
def Encoding.decode (e : Encoding) (b : List Nat) : Except DecodeError String :=
  match e with
  | .utf8 => utf8From "utf-8" false b 0 []
  | .utf8Sig =>
    match b with
    | 0xef :: 0xbb :: 0xbf :: rest => utf8From "utf-8" false rest 0 []
    | _ => utf8From "utf-8" false b 0 []
  | .utf16 =>
    match b with
    | 0xff :: 0xfe :: rest => utf16From "utf-16" false rest 2 []
    | 0xfe :: 0xff :: rest => utf16From "utf-16" true rest 2 []
    | _ => utf16From "utf-16" false b 0 []
  | .utf16le => utf16From "utf-16-le" false b 0 []
  | .utf16be => utf16From "utf-16-be" true b 0 []
  | .utf32 =>
    match b with
    | 0xff :: 0xfe :: 0 :: 0 :: rest => utf32From "utf-32" false rest 4 []
    | 0 :: 0 :: 0xfe :: 0xff :: rest => utf32From "utf-32" true rest 4 []
    | _ => utf32From "utf-32" false b 0 []
  | .utf32le => utf32From "utf-32-le" false b 0 []
  | .utf32be => utf32From "utf-32-be" true b 0 []

/-- Decodes the bytes of a text file: strict UTF-8. -/
def decodeFile (b : ByteArray) : Except DecodeError String :=
  utf8From "utf-8" true (b.toList.map (·.toNat)) 0 []

/-- Decodes a body in the encoding its first bytes suggest. -/
def decodeBody (b : ByteArray) : Except DecodeError String :=
  let bs := b.toList.map (·.toNat)
  (Encoding.detect bs).decode bs

end QuoteMomentum.Text
