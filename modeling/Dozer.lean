import Dozer.Types
import Dozer.Cache.RecordDatabase
import Dozer.Window.Processor
import Dozer.Window.Run
import Dozer.Sink.Basic
import Dozer.Sink.Schema
import Dozer.Cache.RwCache
import Dozer.Sink.Process
import Dozer.Sink.Run
import Dozer.Sink.Build
import Dozer.Cli.AppState
