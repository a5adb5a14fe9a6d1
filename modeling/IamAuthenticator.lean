import IamAuthenticator.Framework.GoMap
import IamAuthenticator.Framework.Lib
import IamAuthenticator.Config.Mapping
import IamAuthenticator.Mapper.File
import IamAuthenticator.Mapper.UnifiedFile
import IamAuthenticator.Mapper.PerFieldFile
import IamAuthenticator.ConfigMap.Codec
import IamAuthenticator.ConfigMap.ParseMap
import IamAuthenticator.ConfigMap.Store
import IamAuthenticator.ConfigMap.Watcher
import IamAuthenticator.ConfigMap.Start
import IamAuthenticator.ConfigMap.MapCall
import IamAuthenticator.ConfigMap.Client
import IamAuthenticator.ConfigMap.Clients
import IamAuthenticator.ConfigMap.EndToEnd
