import SessionMux.Datum
import SessionMux.Settings.Basic
import SessionMux.Time.SpanText

/-!
Settings as records: the names under which they are stored, and spans of time as people write them.
-/

namespace SessionMux

def Span.toDatum (span : Span) : Datum :=
  .record [("secs", .nat span.seconds), ("nanos", .nat span.subNanos)]

def BackoffConfig.toDatum (config : BackoffConfig) : Datum :=
  .record
    [("connect_timeout", config.connectTimeout.toDatum),
      ("initial_backoff", config.initial.toDatum),
      ("max_backoff", config.longest.toDatum),
      ("max_retries", .ofOption .nat config.maxRetries)]

def DialSettings.toDatum (dial : DialSettings) : Datum :=
  .record
    [("connect_timeout", .text dial.backoff.connectTimeout.text),
      ("initial_backoff", .text dial.backoff.initial.text),
      ("max_backoff", .text dial.backoff.longest.text),
      ("max_retries", .ofOption .nat dial.backoff.maxRetries),
      ("reconnect_on_drop", .bool dial.reconnectOnDrop)]

def SecuritySettings.toDatum (security : SecuritySettings) : Datum :=
  .record
    [("enabled", .bool security.enabled),
      ("root", .text security.root),
      ("cert_file", .text security.certFile),
      ("key_file", .text security.keyFile),
      ("ca_file", .text security.caFile)]

def Settings.toDatum (settings : Settings) : Datum :=
  .record
    [("plugin_port", .nat settings.pluginPort.toNat),
      ("agent_port", .nat settings.agentPort.toNat),
      ("max_error_number", .nat settings.maxErrors),
      ("max_thread_number", .nat settings.workers),
      ("max_payload", .nat settings.maxPayload),
      ("log_error_events", .bool settings.logErrorEvents),
      ("error_window", .text settings.errorWindow.text),
      ("reconnect", settings.dial.toDatum),
      ("security", settings.security.toDatum)]

end SessionMux
