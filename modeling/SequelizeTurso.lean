import SequelizeTurso.Js
import SequelizeTurso.CollectModels
import SequelizeTurso.SqlText
import SequelizeTurso.Bind
import SequelizeTurso.Query
import SequelizeTurso.TableInfo
import SequelizeTurso.Response
import SequelizeTurso.FormatError
import SequelizeTurso.Run
import SequelizeTurso.Connect
import SequelizeTurso.Disconnect
import SequelizeTurso.ModuleLoader
import SequelizeTurso.ShowIndexes
import SequelizeTurso.LimitOffset
