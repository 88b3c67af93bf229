namespace MissionWorker.Service.Endpoint

def health : String := "/health"

def gridBuild : String := "/grid/build"

def missionCompile : String := "/mission/compile"

def boundaryCache : String := "/boundary/cache"

end MissionWorker.Service.Endpoint
