import VideoTerminal.Text.Utf8
import VideoTerminal.Transport.Event

/-!
A byte stream as a transport. What is read is decoded as UTF-8 and delivered
as text; what is sent is written to a sink. The stream is read to its end in
one go when it is started.
-/

namespace VideoTerminal.Transport

/-- What one attempt to read gives. -/
inductive Read where
  | bytes (bytes : List UInt8)
  | interrupted
  | broken
deriving DecidableEq

/-- The size of the buffer for one read. -/
def readLimit : Nat := 4096

/-- Bytes in pieces of at most `limit`, with `fuel` at least their number. -/
def piecesWithin (limit : Nat) (bytes : List UInt8) : Nat → List (List UInt8)
  | 0 => []
  | fuel + 1 =>
      if bytes.isEmpty then []
      else bytes.take limit :: piecesWithin limit (bytes.drop limit) fuel

/-- The reads that it takes to get one piece of the stream: a piece longer
than the buffer comes in several, and an empty one is the end of the stream. -/
def Read.split : Read → List Read
  | bytes [] => [bytes []]
  | bytes found => (piecesWithin readLimit found found.length).map bytes
  | interrupted => [interrupted]
  | broken => [broken]

/-- The events of some reads, with `held` bytes left from before them. An
interrupted read is tried again; a broken one, an empty one and the last one
end the stream, and then bytes that are still held are delivered as they are. -/
def readEvents (held : List UInt8) : List Read → List Event
  | .bytes (byte :: bytes) :: rest =>
      let (text, held) := Text.decodeChunk held (byte :: bytes)
      (if text.isEmpty then [] else [.text text]) ++ readEvents held rest
  | .interrupted :: rest => readEvents held rest
  | .bytes [] :: _ | .broken :: _ | [] =>
      (if held.isEmpty then [] else [.text (Text.decodeUtf8 held)]) ++ [.connection false]

/-- A stream that may not have been started yet, and what was written to its
sink. -/
structure ByteStream where
  reads : Option (List Read) := none
  written : List UInt8 := []
  failure : Option String := none

namespace ByteStream

/-- Read the stream to its end. That can be done only once. -/
def start (stream : ByteStream) : Except Error (ByteStream × List Event) :=
  match stream.reads with
  | none => .error .disconnected
  | some reads =>
      .ok
        ({ stream with reads := none },
          .connection true :: readEvents [] (reads.flatMap Read.split))

/-- Write text to the sink, once the stream has been started. A sink that
fails has no part in writing nothing. -/
def send (stream : ByteStream) (text : List Char) : Except Error ByteStream :=
  match stream.reads, stream.failure, text with
  | some _, _, _ => .error .notStarted
  | none, some reason, _ :: _ => .error (.write reason)
  | none, _, _ =>
      .ok { stream with written := stream.written ++ (String.ofList text).toUTF8.toList }

end ByteStream

end VideoTerminal.Transport
