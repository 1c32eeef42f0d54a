/-!
# The shared runtime

The module that generated clients import. Its text depends on no schema and no profile, so writing
it again changes nothing. One definition holds each part of it, in the order they are written in;
`runtimeLines` joins them.
-/

namespace ConnectRpc.Stub

/-- The remarks, the imports and the constants. -/
def runtimeOpeningLines : List String := [
  "\"\"\"Connect protocol runtime shared by generated clients.",
  "",
  "This module is self-contained: generated client units import it by relative",
  "location and it only depends on the standard library.",
  "",
  "Calls never raise protocol failures into the caller. Each failure is",
  "recorded on the returned ``CallResult`` and emitted on the client's",
  "``error_occurred`` signal, which is shared by every call of that client.",
  "\"\"\"",
  "",
  "from __future__ import annotations",
  "",
  "import asyncio",
  "import contextlib",
  "import json",
  "import logging",
  "import struct",
  "from collections.abc import AsyncIterator, Callable, Mapping",
  "from dataclasses import dataclass, field",
  "from typing import Any, AsyncContextManager, Protocol",
  "from urllib.parse import quote, urlsplit",
  "",
  "logger = logging.getLogger(__name__)",
  "",
  "DEFAULT_BASE_URL = \"http://localhost:8080\"",
  "",
  "FLAG_COMPRESSED = 0x01",
  "FLAG_END_STREAM = 0x02",
  "",
  "_HEADER = struct.Struct(\">BI\")",
  "HEADER_SIZE = _HEADER.size",
  "",
  "JSON_CONTENT_TYPE = \"application/json\"",
  "CONNECT_JSON_CONTENT_TYPE = \"application/connect+json\"",
  "",
  "Headers = dict[str, str]",
  "",
  ""]

/-- What a transport offers. -/
def runtimeTransportLines : List String := [
  "class Transport(Protocol):",
  "    async def request(",
  "        self,",
  "        method: str,",
  "        url: str,",
  "        headers: Headers | None,",
  "        body: bytes | None,",
  "        timeout: float | None,",
  "    ) -> tuple[int, Headers, bytes]: ...",
  "",
  "",
  "class StreamingTransport(Transport, Protocol):",
  "    def stream(",
  "        self,",
  "        method: str,",
  "        url: str,",
  "        headers: Headers | None,",
  "        body: bytes | None,",
  "        timeout: float | None,",
  "    ) -> AsyncContextManager[tuple[int, Headers, AsyncIterator[bytes]]]: ...",
  "",
  ""]

/-- The errors that a call can report. -/
def runtimeErrorLines : List String := [
  "class ConnectError(Exception):",
  "    \"\"\"Base class for failures reported on a client's error channel.\"\"\"",
  "",
  "",
  "class TransportError(ConnectError):",
  "    \"\"\"The request could not be submitted.\"\"\"",
  "",
  "",
  "class StatusError(ConnectError):",
  "    \"\"\"The server answered with a non-2xx status.\"\"\"",
  "",
  "    def __init__(self, message: str, status_code: int, code: str | None = None, detail: str | None = None) -> None:",
  "        super().__init__(message)",
  "        self.status_code = status_code",
  "        self.code = code",
  "        self.detail = detail",
  "",
  "",
  "class ResponseDecodeError(ConnectError):",
  "    \"\"\"A successful unary response did not carry a JSON document.\"\"\"",
  "",
  "    def __init__(self, message: str, body: bytes) -> None:",
  "        super().__init__(message)",
  "        self.body = body",
  "",
  "",
  "class IncompleteMessageError(ConnectError):",
  "    \"\"\"A frame announced more bytes than the stream delivered.\"\"\"",
  "",
  "    def __init__(self, expected: int, received: int) -> None:",
  "        super().__init__(f\"Incomplete ConnectRPC message: expected \x7bexpected\x7d bytes, got \x7breceived\x7d\")",
  "        self.expected = expected",
  "        self.received = received",
  "",
  "",
  "class MessageDecodeError(ConnectError):",
  "    \"\"\"One stream frame was not valid JSON. Later frames are still read.\"\"\"",
  "",
  "    def __init__(self, payload: bytes) -> None:",
  "        text = payload.decode(\"utf-8\", errors=\"replace\")",
  "        super().__init__(f\"Failed to parse ConnectRPC message JSON: \x7btext\x7d\")",
  "        self.payload = payload",
  "",
  "",
  "class EndStreamError(ConnectError):",
  "    \"\"\"The end-of-stream trailer carried an error.\"\"\"",
  "",
  "    def __init__(self, code: str | None, detail: str | None, metadata: dict[str, Any] | None = None) -> None:",
  "        super().__init__(f\"Stream ended with error: \x7bcode or 'unknown'\x7d: \x7bdetail or ''\x7d\".rstrip(\": \"))",
  "        self.code = code",
  "        self.detail = detail",
  "        self.metadata = metadata or \x7b\x7d",
  "",
  "    @classmethod",
  "    def from_trailer(cls, trailer: dict[str, Any]) -> \"EndStreamError\":",
  "        error = trailer.get(\"error\")",
  "        metadata = trailer.get(\"metadata\")",
  "        if not isinstance(metadata, dict):",
  "            metadata = None",
  "        if isinstance(error, dict):",
  "            code = error.get(\"code\")",
  "            detail = error.get(\"message\")",
  "            return cls(",
  "                code if isinstance(code, str) else None,",
  "                detail if isinstance(detail, str) else None,",
  "                metadata,",
  "            )",
  "        return cls(None, str(error), metadata)",
  "",
  "",
  "class RequestEncodeError(ConnectError):",
  "    \"\"\"The request message could not be encoded as JSON. Nothing was sent.\"\"\"",
  "",
  "",
  "class UnsupportedCompressionError(ConnectError):",
  "    \"\"\"A stream frame was flagged as compressed.\"\"\"",
  "",
  "    def __init__(self, payload: bytes) -> None:",
  "        super().__init__(\"Compressed ConnectRPC messages are not supported\")",
  "        self.payload = payload",
  "",
  "",
  "class DeadlineExceededError(ConnectError):",
  "    \"\"\"The call did not finish before its deadline.\"\"\"",
  "",
  "",
  "class CallCancelledError(ConnectError):",
  "    \"\"\"The call was cancelled through its CancelToken.\"\"\"",
  "",
  ""]

/-- Signals and their slots. -/
def runtimeSignalLines : List String := [
  "Slot = Callable[..., object]",
  "",
  "",
  "class Signal:",
  "    \"\"\"A list of callbacks fired with the same arguments.\"\"\"",
  "",
  "    def __init__(self, name: str) -> None:",
  "        self.name = name",
  "        self._slots: list[Slot] = []",
  "",
  "    def connect(self, slot: Slot) -> Slot:",
  "        self._slots.append(slot)",
  "        return slot",
  "",
  "    def disconnect(self, slot: Slot) -> None:",
  "        self._slots.remove(slot)",
  "",
  "    def emit(self, *args: object) -> None:",
  "        for slot in list(self._slots):",
  "            slot(*args)",
  "",
  "    def __repr__(self) -> str:",
  "        return f\"<Signal \x7bself.name\x7d slots=\x7blen(self._slots)\x7d>\"",
  "",
  "",
  "class signal:",
  "    \"\"\"Declare a per-instance ``Signal`` on a client class.",
  "",
  "    Example:",
  "        >>> class GreeterClient(ConnectClient):",
  "        ...     say_hello_response = signal()",
  "    \"\"\"",
  "",
  "    def __init__(self) -> None:",
  "        self.name = \"\"",
  "",
  "    def __set_name__(self, owner: type, name: str) -> None:",
  "        self.name = name",
  "",
  "    def __get__(self, instance: object | None, owner: type | None = None) -> Any:",
  "        if instance is None:",
  "            return self",
  "        slots = instance.__dict__",
  "        if self.name not in slots:",
  "            slots[self.name] = Signal(self.name)",
  "        return slots[self.name]",
  "",
  ""]

/-- Cancel tokens, settings and results. -/
def runtimeCallLines : List String := [
  "class CancelToken:",
  "    \"\"\"Lets a caller abandon a call that is in flight.\"\"\"",
  "",
  "    def __init__(self) -> None:",
  "        self._event = asyncio.Event()",
  "",
  "    def cancel(self) -> None:",
  "        self._event.set()",
  "",
  "    @property",
  "    def cancelled(self) -> bool:",
  "        return self._event.is_set()",
  "",
  "    async def wait(self) -> None:",
  "        await self._event.wait()",
  "",
  "",
  "@dataclass",
  "class ClientConfig:",
  "    \"\"\"Per-client settings.",
  "",
  "    Attributes:",
  "        base_url: Prefix of every request URL",
  "        timeout: Default deadline in seconds for calls that do not pass one",
  "        incremental_streams: Decode streams chunk by chunk when the transport",
  "            supports it, instead of waiting for the full body",
  "    \"\"\"",
  "",
  "    base_url: str = DEFAULT_BASE_URL",
  "    timeout: float | None = None",
  "    incremental_streams: bool = True",
  "",
  "",
  "@dataclass",
  "class CallResult:",
  "    \"\"\"Outcome of one call.",
  "",
  "    Unary calls carry at most one message. Streaming calls carry every event",
  "    in the order it was delivered, including the ones received before a",
  "    failure.",
  "    \"\"\"",
  "",
  "    messages: list[Any] = field(default_factory=list)",
  "    errors: list[ConnectError] = field(default_factory=list)",
  "",
  "    @property",
  "    def ok(self) -> bool:",
  "        return not self.errors",
  "",
  "    @property",
  "    def message(self) -> Any:",
  "        return self.messages[0] if self.messages else None",
  "",
  ""]

/-- Frames and the decoder that cuts octets into them. -/
def runtimeFramingLines : List String := [
  "@dataclass(frozen=True)",
  "class Envelope:",
  "    flags: int",
  "    payload: bytes",
  "",
  "    @property",
  "    def is_final(self) -> bool:",
  "        return bool(self.flags & FLAG_END_STREAM)",
  "",
  "",
  "def encode_envelope(payload: bytes | str, flags: int = 0) -> bytes:",
  "    \"\"\"Wrap one message into a frame: flags, big-endian length, payload.\"\"\"",
  "    if isinstance(payload, str):",
  "        payload = payload.encode(\"utf-8\")",
  "    return _HEADER.pack(flags, len(payload)) + payload",
  "",
  "",
  "class EnvelopeDecoder:",
  "    \"\"\"Incremental frame decoder.",
  "",
  "    ``feed`` may receive the stream in arbitrary chunks; partial frames are",
  "    kept until the rest arrives. Once a final frame is decoded the decoder is",
  "    finished and ignores any further bytes.",
  "    \"\"\"",
  "",
  "    def __init__(self) -> None:",
  "        self._buffer = bytearray()",
  "        self.finished = False",
  "",
  "    @property",
  "    def pending(self) -> int:",
  "        return len(self._buffer)",
  "",
  "    def feed(self, data: bytes) -> list[Envelope]:",
  "        if self.finished:",
  "            return []",
  "        self._buffer += data",
  "        envelopes: list[Envelope] = []",
  "        while len(self._buffer) >= HEADER_SIZE:",
  "            flags, length = _HEADER.unpack_from(self._buffer)",
  "            end = HEADER_SIZE + length",
  "            if len(self._buffer) < end:",
  "                break",
  "            envelope = Envelope(flags, bytes(self._buffer[HEADER_SIZE:end]))",
  "            del self._buffer[:end]",
  "            envelopes.append(envelope)",
  "            if envelope.is_final:",
  "                self.finished = True",
  "                self._buffer.clear()",
  "                break",
  "        return envelopes",
  "",
  "    def close(self) -> IncompleteMessageError | None:",
  "        \"\"\"Report a truncated frame left over at the end of the stream.",
  "",
  "        Fewer than five leftover bytes cannot hold a frame header and end the",
  "        stream silently.",
  "        \"\"\"",
  "        if self.finished or len(self._buffer) < HEADER_SIZE:",
  "            self._buffer.clear()",
  "            return None",
  "        _, length = _HEADER.unpack_from(self._buffer)",
  "        received = len(self._buffer) - HEADER_SIZE",
  "        self._buffer.clear()",
  "        return IncompleteMessageError(length, received)",
  "",
  ""]

/-- What frames of a stream mean, and the text of a request. -/
def runtimeStreamLines : List String := [
  "# A decoded JSON event or a ConnectError.",
  "StreamItem = Any",
  "",
  "",
  "class StreamParser:",
  "    \"\"\"Turns stream bytes into events and errors, in frame order.",
  "",
  "    Events are decoded JSON values. A final frame holding an empty object is",
  "    the end-of-stream trailer and is dropped; a final frame holding an",
  "    ``error`` member becomes an ``EndStreamError``.",
  "    \"\"\"",
  "",
  "    def __init__(self) -> None:",
  "        self._decoder = EnvelopeDecoder()",
  "",
  "    @property",
  "    def finished(self) -> bool:",
  "        return self._decoder.finished",
  "",
  "    def feed(self, data: bytes) -> list[StreamItem]:",
  "        items: list[StreamItem] = []",
  "        for envelope in self._decoder.feed(data):",
  "            item = _interpret(envelope)",
  "            if item is not None:",
  "                items.append(item)",
  "        return items",
  "",
  "    def close(self) -> list[StreamItem]:",
  "        error = self._decoder.close()",
  "        return [error] if error is not None else []",
  "",
  "",
  "def parse_stream(buffer: bytes) -> list[StreamItem]:",
  "    \"\"\"Decode a complete response body holding zero or more frames.\"\"\"",
  "    parser = StreamParser()",
  "    return parser.feed(buffer) + parser.close()",
  "",
  "",
  "def _interpret(envelope: Envelope) -> StreamItem | None:",
  "    if envelope.flags & FLAG_COMPRESSED:",
  "        return UnsupportedCompressionError(envelope.payload)",
  "    try:",
  "        message = json.loads(envelope.payload.decode(\"utf-8\"))",
  "    except ValueError:",
  "        return MessageDecodeError(envelope.payload)",
  "    if envelope.is_final and isinstance(message, dict):",
  "        if \"error\" in message:",
  "            return EndStreamError.from_trailer(message)",
  "        if not message:",
  "            return None",
  "    return message",
  "",
  "",
  "def dump_json(data: object) -> str:",
  "    return json.dumps(data, separators=(\",\", \":\"), ensure_ascii=False)",
  "",
  ""]

/-- The client: its settings and its entry points. -/
def runtimeClientLines : List String := [
  "class ConnectClient:",
  "    \"\"\"Base class of generated service clients.",
  "",
  "    Example:",
  "        >>> client = GreeterClient(transport, ClientConfig(base_url=\"http://localhost:8080\"))",
  "        >>> client.error_occurred.connect(print)",
  "        >>> result = await client.say_hello(\"world\")",
  "    \"\"\"",
  "",
  "    default_base_url = DEFAULT_BASE_URL",
  "",
  "    error_occurred = signal()",
  "",
  "    def __init__(self, transport: Transport, config: ClientConfig | None = None) -> None:",
  "        self._transport = transport",
  "        self._config = config if config is not None else ClientConfig(base_url=self.default_base_url)",
  "",
  "    @property",
  "    def config(self) -> ClientConfig:",
  "        return self._config",
  "",
  "    @property",
  "    def transport(self) -> Transport:",
  "        return self._transport",
  "",
  "    @property",
  "    def base_url(self) -> str:",
  "        return self._config.base_url",
  "",
  "    @base_url.setter",
  "    def base_url(self, url: str) -> None:",
  "        self._config.base_url = url",
  "",
  "    def get_base_url(self) -> str:",
  "        return self.base_url",
  "",
  "    def set_base_url(self, url: str) -> None:",
  "        self.base_url = url",
  "",
  "    async def call_unary_get(",
  "        self,",
  "        service_path: str,",
  "        method: str,",
  "        request_data: Mapping[str, object],",
  "        response_signal: Signal | None = None,",
  "        *,",
  "        timeout: float | None = None,",
  "        cancel: CancelToken | None = None,",
  "    ) -> CallResult:",
  "        result = CallResult()",
  "        url = self._method_url(service_path, method, result, \"GET request\")",
  "        if url is None:",
  "            return result",
  "        payload = self._encode(request_data, result)",
  "        if payload is None:",
  "            return result",
  "        query_url = f\"\x7burl\x7d?encoding=json&message=\x7bquote(payload, safe='')\x7d\"",
  "        headers = \x7b\"Accept\": JSON_CONTENT_TYPE\x7d",
  "        call = self._unary(\"GET\", query_url, headers, None, response_signal, result)",
  "        return await self._run(call, result, timeout, cancel)",
  "",
  "    async def call_unary_post(",
  "        self,",
  "        service_path: str,",
  "        method: str,",
  "        request_data: Mapping[str, object],",
  "        response_signal: Signal | None = None,",
  "        *,",
  "        timeout: float | None = None,",
  "        cancel: CancelToken | None = None,",
  "    ) -> CallResult:",
  "        result = CallResult()",
  "        url = self._method_url(service_path, method, result, \"POST request\")",
  "        if url is None:",
  "            return result",
  "        headers = \x7b\"Content-Type\": JSON_CONTENT_TYPE, \"Accept\": JSON_CONTENT_TYPE\x7d",
  "        payload = self._encode(request_data, result)",
  "        if payload is None:",
  "            return result",
  "        body = payload.encode(\"utf-8\")",
  "        call = self._unary(\"POST\", url, headers, body, response_signal, result)",
  "        return await self._run(call, result, timeout, cancel)",
  "",
  "    async def call_streaming(",
  "        self,",
  "        service_path: str,",
  "        method: str,",
  "        request_data: Mapping[str, object],",
  "        event_signal: Signal | None = None,",
  "        *,",
  "        timeout: float | None = None,",
  "        cancel: CancelToken | None = None,",
  "    ) -> CallResult:",
  "        result = CallResult()",
  "        url = self._method_url(service_path, method, result, \"start stream\")",
  "        if url is None:",
  "            return result",
  "        headers = \x7b",
  "            \"Content-Type\": CONNECT_JSON_CONTENT_TYPE,",
  "            \"Accept\": CONNECT_JSON_CONTENT_TYPE,",
  "            \"Connect-Protocol-Version\": \"1\",",
  "            \"Cache-Control\": \"no-cache\",",
  "        \x7d",
  "        payload = self._encode(request_data, result)",
  "        if payload is None:",
  "            return result",
  "        body = encode_envelope(payload)",
  "        if self._config.incremental_streams and callable(getattr(self._transport, \"stream\", None)):",
  "            call = self._stream_incremental(url, headers, body, event_signal, result)",
  "        else:",
  "            call = self._stream_buffered(url, headers, body, event_signal, result)",
  "        return await self._run(call, result, timeout, cancel)",
  ""]

/-- How a unary call is made. -/
def runtimeRequestLines : List String := [
  "    def _encode(self, request_data: Mapping[str, object], result: CallResult) -> str | None:",
  "        try:",
  "            return dump_json(request_data)",
  "        except (TypeError, ValueError) as exc:",
  "            self._report(result, RequestEncodeError(f\"Failed to encode request: \x7bexc\x7d\"))",
  "            return None",
  "",
  "    def _method_url(self, service_path: str, method: str, result: CallResult, action: str) -> str | None:",
  "        base = self._config.base_url.rstrip(\"/\")",
  "        parts = urlsplit(base)",
  "        if parts.scheme not in \x7b\"http\", \"https\"\x7d or not parts.netloc:",
  "            self._report(result, TransportError(f\"Failed to \x7baction\x7d: invalid base URL \x7bself._config.base_url!r\x7d\"))",
  "            return None",
  "        return f\"\x7bbase\x7d/\x7bservice_path\x7d/\x7bmethod\x7d\"",
  "",
  "    async def _unary(",
  "        self,",
  "        http_method: str,",
  "        url: str,",
  "        headers: Headers,",
  "        body: bytes | None,",
  "        response_signal: Signal | None,",
  "        result: CallResult,",
  "    ) -> None:",
  "        logger.debug(\"%s %s\", http_method, url)",
  "        try:",
  "            status, _, content = await self._transport.request(http_method, url, headers, body, None)",
  "        except Exception as exc:",
  "            self._report(result, TransportError(f\"Failed to make \x7bhttp_method\x7d request: \x7bexc\x7d\"))",
  "            return",
  "        if not 200 <= status < 300:",
  "            self._report(result, _status_error(\"Request failed with code\", status, content))",
  "            return",
  "        try:",
  "            message = json.loads(content.decode(\"utf-8\"))",
  "        except ValueError:",
  "            self._report(result, ResponseDecodeError(\"Failed to parse response JSON\", content))",
  "            return",
  "        result.messages.append(message)",
  "        if response_signal is not None:",
  "            response_signal.emit(message)",
  ""]

/-- How a stream is read and delivered. -/
def runtimeDeliveryLines : List String := [
  "    async def _stream_buffered(",
  "        self,",
  "        url: str,",
  "        headers: Headers,",
  "        body: bytes,",
  "        event_signal: Signal | None,",
  "        result: CallResult,",
  "    ) -> None:",
  "        logger.debug(\"POST %s (stream)\", url)",
  "        try:",
  "            status, _, content = await self._transport.request(\"POST\", url, headers, body, None)",
  "        except Exception as exc:",
  "            self._report(result, TransportError(f\"Failed to start stream: \x7bexc\x7d\"))",
  "            return",
  "        if not 200 <= status < 300:",
  "            self._report(result, _status_error(\"Stream request failed with code\", status, content))",
  "            return",
  "        self._deliver(parse_stream(content), event_signal, result)",
  "",
  "    async def _stream_incremental(",
  "        self,",
  "        url: str,",
  "        headers: Headers,",
  "        body: bytes,",
  "        event_signal: Signal | None,",
  "        result: CallResult,",
  "    ) -> None:",
  "        logger.debug(\"POST %s (incremental stream)\", url)",
  "        transport: StreamingTransport = self._transport  # type: ignore[assignment]",
  "        try:",
  "            stream = transport.stream(\"POST\", url, headers, body, None)",
  "            status, _, chunks = await stream.__aenter__()",
  "        except Exception as exc:",
  "            self._report(result, TransportError(f\"Failed to start stream: \x7bexc\x7d\"))",
  "            return",
  "        try:",
  "            if not 200 <= status < 300:",
  "                try:",
  "                    content = b\"\".join([chunk async for chunk in chunks])",
  "                except Exception:",
  "                    content = b\"\"",
  "                self._report(result, _status_error(\"Stream request failed with code\", status, content))",
  "                return",
  "            parser = StreamParser()",
  "            iterator = chunks.__aiter__()",
  "            while not parser.finished:",
  "                try:",
  "                    chunk = await iterator.__anext__()",
  "                except StopAsyncIteration:",
  "                    break",
  "                except Exception as exc:",
  "                    self._report(result, TransportError(f\"Stream interrupted: \x7bexc\x7d\"))",
  "                    return",
  "                self._deliver(parser.feed(chunk), event_signal, result)",
  "            self._deliver(parser.close(), event_signal, result)",
  "        finally:",
  "            await stream.__aexit__(None, None, None)",
  "",
  "    def _deliver(self, items: list[StreamItem], event_signal: Signal | None, result: CallResult) -> None:",
  "        for item in items:",
  "            if isinstance(item, ConnectError):",
  "                self._report(result, item)",
  "                continue",
  "            result.messages.append(item)",
  "            if event_signal is not None:",
  "                event_signal.emit(item)",
  ""]

/-- Deadlines, cancellation and the reporting of errors. -/
def runtimeRunLines : List String := [
  "    async def _run(",
  "        self,",
  "        call: Any,",
  "        result: CallResult,",
  "        timeout: float | None,",
  "        cancel: CancelToken | None,",
  "    ) -> CallResult:",
  "        if timeout is None:",
  "            timeout = self._config.timeout",
  "        if cancel is not None and cancel.cancelled:",
  "            call.close()",
  "            self._report(result, CallCancelledError(\"Call cancelled before it was sent\"))",
  "            return result",
  "        if timeout is None and cancel is None:",
  "            await call",
  "            return result",
  "",
  "        task = asyncio.ensure_future(call)",
  "        cancel_waiter = asyncio.ensure_future(cancel.wait()) if cancel is not None else None",
  "        waiters = \x7btask\x7d if cancel_waiter is None else \x7btask, cancel_waiter\x7d",
  "        try:",
  "            done, _ = await asyncio.wait(waiters, timeout=timeout, return_when=asyncio.FIRST_COMPLETED)",
  "        finally:",
  "            if cancel_waiter is not None:",
  "                cancel_waiter.cancel()",
  "            if not task.done():",
  "                task.cancel()",
  "                with contextlib.suppress(asyncio.CancelledError):",
  "                    await task",
  "",
  "        if not task.cancelled():",
  "            task.result()",
  "            return result",
  "        if cancel_waiter is not None and cancel_waiter in done:",
  "            self._report(result, CallCancelledError(\"Call cancelled\"))",
  "        else:",
  "            self._report(result, DeadlineExceededError(f\"Call exceeded its deadline of \x7btimeout\x7d seconds\"))",
  "        return result",
  "",
  "    def _report(self, result: CallResult, error: ConnectError) -> None:",
  "        logger.warning(\"%s\", error)",
  "        result.errors.append(error)",
  "        self.error_occurred.emit(error)",
  "",
  "",
  "def _status_error(prefix: str, status: int, content: bytes) -> StatusError:",
  "    code: str | None = None",
  "    detail: str | None = None",
  "    try:",
  "        body = json.loads(content.decode(\"utf-8\")) if content else None",
  "    except ValueError:",
  "        body = None",
  "    if isinstance(body, dict):",
  "        if isinstance(body.get(\"code\"), str):",
  "            code = body[\"code\"]",
  "        if isinstance(body.get(\"message\"), str):",
  "            detail = body[\"message\"]",
  "    return StatusError(f\"\x7bprefix\x7d: \x7bstatus\x7d\", status, code, detail)"]

/-- The lines of the runtime. -/
def runtimeLines : List String :=
  runtimeOpeningLines ++
    runtimeTransportLines ++
    runtimeErrorLines ++
    runtimeSignalLines ++
    runtimeCallLines ++
    runtimeFramingLines ++
    runtimeStreamLines ++
    runtimeClientLines ++
    runtimeRequestLines ++
    runtimeDeliveryLines ++
    runtimeRunLines

end ConnectRpc.Stub
